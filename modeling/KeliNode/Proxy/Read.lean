import KeliNode.Proxy.Request
import KeliNode.Lib.Delivery

/-!
# Reading a request (`subscription_proxy.rs`)

A connection is read in chunks of at most 1024 bytes until the head is complete, and then for the rest of the body.

| here | there |
|---|---|
| `readSubscriptionProxyHttpRequestHead` | `subscription_proxy.rs:1839` |
| `readSubscriptionProxyHttpRequest` | `subscription_proxy.rs:1862` |
| `requestContentLength`, `requestHasChunkedBody` | `subscription_proxy.rs:1981`, `subscription_proxy.rs:2004` |

The limit on the head is compared with all that was read, head and body, before the end of the head is looked for.  So
a head within the limit is refused when enough of the body comes with it: the result depends on the cut exactly
if the last chunk of the head can pass the limit (`reads_alike_iff`).
-/

namespace KeliNode

open Lib

/-! ## The code -/

/-- The header lines of a head: name and value, as far as there is a colon. -/
def headerLines (head : Text) : List (Text × Text) := ((splitCrlf head).drop 1).filterMap (splitOnce ':')

/-- One step of the loop of `request_content_length`. -/
def addContentLength (length : Option Nat) (header : Text × Text) : Except Text (Option Nat) :=
  if !eqIgnoreCase (trim header.1) "content-length" then .ok length
  else match parseUnsigned (2 ^ 64) (trim header.2) with
    | none => .error "invalid content-length header"
    | some parsed =>
      if length.any (· ≠ parsed) then .error "conflicting content-length headers" else .ok (some parsed)

def requestContentLength (head : Bytes) : Except Text (Option Nat) :=
  match fromUtf8 head with
  | none => .error "invalid utf-8 request"
  | some text => (headerLines text).foldlM addContentLength none

def requestHasChunkedBody (head : Bytes) : Bool :=
  match fromUtf8 head with
  | none => false
  | some text => (headerLines text).any fun header =>
      eqIgnoreCase (trim header.1) "transfer-encoding" &&
        (splitOn ',' header.2).any fun part => eqIgnoreCase (trim part) "chunked"

/-- Each chunk is what one read gives; an empty one, and the end of the list, are the end of the stream. -/
def readSubscriptionProxyHttpRequestHead (maxHeaderBytes : Nat) : Bytes → List Bytes → Except Text (Bytes × List Bytes)
  | _, [] => .error "incomplete http request"
  | output, chunk :: rest =>
    if chunk.isEmpty then .error "incomplete http request"
    else if maxHeaderBytes < (output ++ chunk).length then .error "http request header too large"
    else if (httpHeaderEnd (output ++ chunk)).isSome then .ok (output ++ chunk, rest)
    else readSubscriptionProxyHttpRequestHead maxHeaderBytes (output ++ chunk) rest

/-- `Read::read_exact`; `none` when the stream ends before. -/
def readExact : Nat → List Bytes → Option Bytes
  | 0, _ => some []
  | _ + 1, [] => none
  | n + 1, chunk :: rest =>
    if chunk.isEmpty then none
    else if chunk.length ≤ n + 1 then (readExact (n + 1 - chunk.length) rest).map (chunk ++ ·)
    else some (chunk.take (n + 1))

/-- What is made of the head, of what was read with it and of the chunks that are still to come. -/
def readRequestBody (maxBodyBytes : Nat) (raw : Bytes) (rest : List Bytes) : Except Text Bytes :=
  match httpHeaderEnd raw with
  | none => .error "incomplete http request"
  | some headerEnd => do
    let contentLength ← requestContentLength (raw.take headerEnd)
    let bodyStart := headerEnd + 4
    let alreadyRead := raw.length - bodyStart
    if contentLength.isNone && requestHasChunkedBody (raw.take headerEnd) then
      .error "chunked request bodies are not supported"
    else match contentLength with
      | none => .ok (raw.take bodyStart)
      | some contentLength =>
        if maxBodyBytes < contentLength then .error "http request body too large"
        else if contentLength < alreadyRead then .ok (raw.take (bodyStart + contentLength))
        else if contentLength - alreadyRead = 0 then .ok raw
        else match readExact (contentLength - alreadyRead) rest with
          | none => .error "read subscription proxy request body: failed to fill whole buffer"
          | some body => .ok (raw ++ body)

def readSubscriptionProxyHttpRequest (maxHeaderBytes maxBodyBytes : Nat) (chunks : List Bytes) : Except Text Bytes := do
  let (raw, rest) ← readSubscriptionProxyHttpRequestHead maxHeaderBytes [] chunks
  readRequestBody maxBodyBytes raw rest

/-! ## What the stream alone decides -/

/-- The request at the front of a stream whose head ends at `headerEnd`. -/
def requestOf (maxBodyBytes headerEnd : Nat) (stream : Bytes) : Except Text Bytes := do
  let contentLength ← requestContentLength (stream.take headerEnd)
  if contentLength.isNone && requestHasChunkedBody (stream.take headerEnd) then
    .error "chunked request bodies are not supported"
  else match contentLength with
    | none => .ok (stream.take (headerEnd + 4))
    | some contentLength =>
      if maxBodyBytes < contentLength then .error "http request body too large"
      else if stream.length < headerEnd + 4 + contentLength then
        .error "read subscription proxy request body: failed to fill whole buffer"
      else .ok (stream.take (headerEnd + 4 + contentLength))

section

variable {maxHeaderBytes maxBodyBytes headerEnd : Nat} {stream output chunk : Bytes} {front back rest : List Bytes}

theorem readExact_eq : ∀ {n : Nat} {chunks : List Bytes}, (∀ chunk ∈ chunks, chunk ≠ []) →
    readExact n chunks = if n ≤ chunks.flatten.length then some (chunks.flatten.take n) else none
  | 0, chunks, _ => by simp [readExact]
  | n + 1, [], _ => by simp [readExact]
  | n + 1, chunk :: chunks, h => by
    rw [List.forall_mem_cons] at h
    have ih := @readExact_eq (n + 1 - chunk.length) chunks h.2
    rw [readExact, if_neg (by simpa using h.1), ih, List.flatten_cons, List.length_append]
    by_cases hlong : chunk.length ≤ n + 1
    · rw [if_pos hlong, List.take_append, List.take_of_length_le hlong]
      by_cases hrest : n + 1 - chunk.length ≤ chunks.flatten.length
      · rw [if_pos hrest, if_pos (by omega), Option.map_some]
      · rw [if_neg hrest, if_neg (by omega), Option.map_none]
    · rw [if_neg hlong, if_pos (by omega), List.take_append_of_le_length (by omega)]

theorem httpHeaderEnd_take_none (hend : httpHeaderEnd stream = some headerEnd) {n : Nat} (hn : n < headerEnd + 4) :
    httpHeaderEnd (stream.take n) = none := by
  cases hshort : httpHeaderEnd (stream.take n) with
  | none => rfl
  | some early =>
    have hlong := findWindow_append (t := stream.drop n) (by decide) hshort
    rw [List.take_append_drop] at hlong
    rw [httpHeaderEnd, hlong] at hend
    cases hend
    have hlen := length_of_findWindow (by decide) hshort
    simp only [List.length_cons, List.length_nil, List.length_take] at hlen
    omega

theorem httpHeaderEnd_take (hend : httpHeaderEnd stream = some headerEnd) {n : Nat} (hn : headerEnd + 4 ≤ n) :
    httpHeaderEnd (stream.take n) = some headerEnd := by
  have hlen := length_of_findWindow (by decide) hend
  simp only [List.length_cons, List.length_nil] at hlen
  refine findWindow_of_append (t := stream.drop n) (by decide) ?_ ?_
  · rw [List.take_append_drop]
    exact hend
  · simp only [List.length_cons, List.length_nil, List.length_take]
    omega

/-- The head loop on a stream without an end of the head. -/
theorem readHead_endless (hnone : httpHeaderEnd (output ++ rest.flatten) = none) (hchunks : ∀ chunk ∈ rest, chunk ≠ [])
    (hfit : output.length ≤ maxHeaderBytes) : readSubscriptionProxyHttpRequestHead maxHeaderBytes output rest =
      if maxHeaderBytes < (output ++ rest.flatten).length then .error "http request header too large"
      else .error "incomplete http request" := by
  induction rest generalizing output with
  | nil => rw [readSubscriptionProxyHttpRequestHead, if_neg (by simpa using hfit)]
  | cons chunk rest ih =>
    rw [List.forall_mem_cons] at hchunks
    rw [List.flatten_cons, ← List.append_assoc] at hnone ⊢
    rw [readSubscriptionProxyHttpRequestHead, if_neg (by simpa using hchunks.1)]
    by_cases hlarge : maxHeaderBytes < (output ++ chunk).length
    · rw [if_pos hlarge, if_pos (by rw [List.length_append]; omega)]
    · have hopen : httpHeaderEnd (output ++ chunk) = none := by
        cases hend : httpHeaderEnd (output ++ chunk) with
        | none => rfl
        | some headerEnd =>
          rw [httpHeaderEnd, findWindow_append (by decide) hend] at hnone
          cases hnone
      rw [if_neg hlarge, hopen, if_neg (by simp), ih hnone hchunks.2 (by omega)]

/-- The head loop on a stream whose head is completed by `chunk`. -/
theorem readHead_cut (hfront : httpHeaderEnd (output ++ front.flatten) = none)
    (hcut : (httpHeaderEnd (output ++ (front ++ [chunk]).flatten)).isSome = true)
    (hchunks : ∀ c ∈ front ++ chunk :: back, c ≠ []) :
    readSubscriptionProxyHttpRequestHead maxHeaderBytes output (front ++ chunk :: back) =
      if maxHeaderBytes < (output ++ (front ++ [chunk]).flatten).length then .error "http request header too large"
      else .ok (output ++ (front ++ [chunk]).flatten, back) := by
  induction front generalizing output with
  | nil =>
    have hne := hchunks chunk (by simp)
    simp only [List.nil_append, List.flatten_singleton] at hcut ⊢
    rw [readSubscriptionProxyHttpRequestHead, if_neg (by simpa using hne), hcut, if_pos rfl]
  | cons first front ih =>
    have hne := hchunks first (by simp)
    simp only [List.cons_append, List.flatten_cons, ← List.append_assoc] at hfront hcut ⊢
    rw [readSubscriptionProxyHttpRequestHead, if_neg (by simpa using hne)]
    by_cases hlarge : maxHeaderBytes < (output ++ first).length
    · rw [if_pos hlarge, if_pos (by rw [List.length_append]; omega)]
    · have hopen : httpHeaderEnd (output ++ first) = none := by
        cases hend : httpHeaderEnd (output ++ first) with
        | none => rfl
        | some headerEnd =>
          rw [httpHeaderEnd, findWindow_append (by decide) hend] at hfront
          cases hfront
      rw [if_neg hlarge, hopen, if_neg (by simp)]
      exact ih hfront hcut fun c hc => hchunks c (List.mem_cons_of_mem _ hc)

/-- Behind the head, the cut does not matter. -/
theorem readRequestBody_eq (hend : httpHeaderEnd stream = some headerEnd) {n : Nat} (hn : headerEnd + 4 ≤ n)
    (hle : n ≤ stream.length) (hrest : rest.flatten = stream.drop n) (hchunks : ∀ chunk ∈ rest, chunk ≠ []) :
    readRequestBody maxBodyBytes (stream.take n) rest = requestOf maxBodyBytes headerEnd stream := by
  have hhead : (stream.take n).take headerEnd = stream.take headerEnd := by
    rw [List.take_take, Nat.min_eq_left (by omega)]
  have hlen : (stream.take n).length = n := by rw [List.length_take, Nat.min_eq_left hle]
  simp only [readRequestBody, requestOf, httpHeaderEnd_take hend hn, hhead, hlen]
  refine bind_congr fun contentLength => ?_
  cases contentLength with
  | none =>
    simp only [Option.isNone_none, Bool.true_and]
    rw [List.take_take, Nat.min_eq_left hn]
  | some contentLength =>
    simp only [Option.isNone_some, Bool.false_and, Bool.false_eq_true, if_false]
    by_cases hlarge : maxBodyBytes < contentLength
    · rw [if_pos hlarge, if_pos hlarge]
    rw [if_neg hlarge, if_neg hlarge]
    by_cases hsurplus : contentLength < n - (headerEnd + 4)
    · rw [if_pos hsurplus, if_neg (by omega), List.take_take, Nat.min_eq_left (by omega)]
    rw [if_neg hsurplus]
    by_cases hexact : contentLength - (n - (headerEnd + 4)) = 0
    · rw [if_pos hexact, if_neg (by omega)]
      congr 2
      omega
    rw [if_neg hexact, readExact_eq hchunks, hrest, List.length_drop]
    by_cases hshort : stream.length < headerEnd + 4 + contentLength
    · rw [if_pos hshort, if_neg (by omega)]
    · rw [if_neg hshort, if_pos (by omega)]
      have htotal : headerEnd + 4 + contentLength = n + (contentLength - (n - (headerEnd + 4))) := by omega
      rw [htotal, List.take_add]

/-- A stream whose head is completed by `chunk`. -/
theorem read_cut (hend : httpHeaderEnd stream = some headerEnd) (hd : Delivers 1024 (front ++ chunk :: back) stream)
    (hfront : front.flatten.length < headerEnd + 4) (hcut : headerEnd + 4 ≤ (front ++ [chunk]).flatten.length) :
    readSubscriptionProxyHttpRequest maxHeaderBytes maxBodyBytes (front ++ chunk :: back) =
      if maxHeaderBytes < (front ++ [chunk]).flatten.length then .error "http request header too large"
      else requestOf maxBodyBytes headerEnd stream := by
  have hwhole := hd.cut_whole
  have htake : (front ++ [chunk]).flatten = stream.take (front ++ [chunk]).flatten.length := by
    rw [← hwhole, List.take_left']
    rfl
  have hdrop : back.flatten = stream.drop (front ++ [chunk]).flatten.length := by
    rw [← hwhole, List.drop_left']
    rfl
  have hle : (front ++ [chunk]).flatten.length ≤ stream.length := by
    rw [← hwhole, List.length_append]
    omega
  have hopen : httpHeaderEnd ([] ++ front.flatten) = none := by
    have hshort : front.flatten = stream.take front.flatten.length := by
      rw [← hwhole, List.flatten_append, List.append_assoc, List.take_left']
      rfl
    rw [List.nil_append, hshort]
    exact httpHeaderEnd_take_none hend hfront
  have hclosed : (httpHeaderEnd ([] ++ (front ++ [chunk]).flatten)).isSome = true := by
    rw [List.nil_append, htake, httpHeaderEnd_take hend hcut]
    rfl
  rw [readSubscriptionProxyHttpRequest, readHead_cut hopen hclosed hd.nonempty, List.nil_append]
  split
  · rfl
  · change readRequestBody maxBodyBytes (front ++ [chunk]).flatten back = _
    rw [htake]
    exact readRequestBody_eq hend hcut hle hdrop fun c hc => hd.nonempty c (by simp [hc])

theorem read_endless {chunks : List Bytes} (hnone : httpHeaderEnd stream = none) (hd : Delivers 1024 chunks stream) :
    readSubscriptionProxyHttpRequest maxHeaderBytes maxBodyBytes chunks =
      if maxHeaderBytes < stream.length then .error "http request header too large"
      else .error "incomplete http request" := by
  have hopen : httpHeaderEnd ([] ++ chunks.flatten) = none := by
    rw [List.nil_append, hd.whole]
    exact hnone
  have hhead := readHead_endless hopen hd.nonempty (Nat.zero_le maxHeaderBytes)
  rw [List.nil_append, hd.whole] at hhead
  rw [readSubscriptionProxyHttpRequest, hhead]
  split <;> rfl

/-- The chunk that completes the head, in any delivery. -/
theorem exists_head_cut {chunks : List Bytes} (hend : httpHeaderEnd stream = some headerEnd)
    (hd : Delivers 1024 chunks stream) : ∃ front chunk back, chunks = front ++ chunk :: back ∧
      front.flatten.length < headerEnd + 4 ∧ headerEnd + 4 ≤ (front ++ [chunk]).flatten.length := by
  have hlen := length_of_findWindow (by decide) hend
  simp only [List.length_cons, List.length_nil] at hlen
  exact exists_cut (by omega) (by rw [hd.whole]; omega)

theorem addContentLength_error {header : Text × Text} {length : Option Nat} {error : Text}
    (h : addContentLength length header = .error error) :
    error = "invalid content-length header" ∨ error = "conflicting content-length headers" := by
  rw [addContentLength] at h
  split at h
  · cases h
  · split at h
    · cases h
      exact .inl rfl
    · split at h
      · cases h
        exact .inr rfl
      · cases h

theorem foldlM_addContentLength_error {headers : List (Text × Text)} {length : Option Nat} {error : Text}
    (h : headers.foldlM addContentLength length = .error error) :
    error = "invalid content-length header" ∨ error = "conflicting content-length headers" := by
  induction headers generalizing length with
  | nil => cases h
  | cons header headers ih =>
    rw [List.foldlM_cons] at h
    cases hstep : addContentLength length header with
    | error error' =>
      rw [hstep] at h
      cases h
      exact addContentLength_error hstep
    | ok next =>
      rw [hstep] at h
      exact ih h

/-- No request is refused as the head loop refuses one. -/
theorem requestOf_ne_tooLarge : requestOf maxBodyBytes headerEnd stream ≠ .error "http request header too large" := by
  intro h
  rw [requestOf] at h
  cases hlength : requestContentLength (stream.take headerEnd) with
  | error error =>
    rw [hlength] at h
    cases h
    rw [requestContentLength] at hlength
    split at hlength
    · exact absurd (Except.error.inj hlength) (by decide)
    · rcases foldlM_addContentLength_error hlength with herror | herror <;> exact absurd herror (by decide)
  | ok contentLength =>
    rw [hlength] at h
    change (if _ then _ else _) = _ at h
    split at h
    · exact absurd (Except.error.inj h) (by decide)
    · split at h
      · cases h
      · split at h
        · exact absurd (Except.error.inj h) (by decide)
        · split at h
          · exact absurd (Except.error.inj h) (by decide)
          · cases h

/-! ## Content-Length -/

/-- The values of the Content-Length lines. -/
def contentLengthValues (head : Text) : List Text :=
  ((headerLines head).filter fun header => eqIgnoreCase (trim header.1) "content-length").map fun header => trim header.2

/-- The loop over lines that all name one length. -/
theorem foldlM_addContentLength {headers : List (Text × Text)} {known : Option Nat} {length : Nat}
    (hknown : ∀ other ∈ known, other = length)
    (hvalues : ∀ header ∈ headers, eqIgnoreCase (trim header.1) "content-length" = true →
      parseUnsigned (2 ^ 64) (trim header.2) = some length) :
    headers.foldlM addContentLength known =
      .ok (if headers.any fun header => eqIgnoreCase (trim header.1) "content-length" then some length else known) := by
  induction headers generalizing known with
  | nil => rfl
  | cons header headers ih =>
    rw [List.forall_mem_cons] at hvalues
    rw [List.foldlM_cons, List.any_cons]
    by_cases hname : eqIgnoreCase (trim header.1) "content-length" = true
    · have hsame : known.any (· ≠ length) = false := by
        cases known with
        | none => rfl
        | some other => simpa using hknown other rfl
      have hstep : addContentLength known header = .ok (some length) := by
        simp only [addContentLength, hname, hvalues.1 hname, hsame, Bool.not_true, Bool.false_eq_true, if_false]
      rw [hstep, hname, Bool.true_or, if_pos rfl]
      refine (ih (fun other hother => ?_) hvalues.2).trans ?_
      · exact (Option.some.inj hother).symm
      · split <;> rfl
    · have hstep : addContentLength known header = .ok known := by
        simp only [addContentLength, hname, Bool.not_false, if_true]
      rw [hstep]
      simp only [hname, Bool.false_or]
      exact ih hknown hvalues.2

/-- A request that a stream starts with: its head within the limit, and a length that its lines agree on. -/
structure SoundRequest (maxHeaderBytes maxBodyBytes : Nat) (stream : Bytes) (headerEnd length : Nat) (head : Text) :
    Prop where
  ends : httpHeaderEnd stream = some headerEnd
  fits : headerEnd + 4 ≤ maxHeaderBytes
  text : fromUtf8 (stream.take headerEnd) = some head
  agreed : ∀ value ∈ contentLengthValues head, parseUnsigned (2 ^ 64) value = some length
  absent : contentLengthValues head = [] → length = 0 ∧ requestHasChunkedBody (stream.take headerEnd) = false
  small : length ≤ maxBodyBytes
  whole : headerEnd + 4 + length ≤ stream.length

theorem SoundRequest.requestOf_eq {length : Nat} {head : Text}
    (h : SoundRequest maxHeaderBytes maxBodyBytes stream headerEnd length head) :
    requestOf maxBodyBytes headerEnd stream = .ok (stream.take (headerEnd + 4 + length)) := by
  have hlength : requestContentLength (stream.take headerEnd) = .ok
      (if (headerLines head).any fun header => eqIgnoreCase (trim header.1) "content-length" then some length else none) := by
    rw [requestContentLength, h.text]
    refine foldlM_addContentLength (by rintro _ ⟨⟩) fun header hmem hname => ?_
    exact h.agreed _ (List.mem_map.2 ⟨header, List.mem_filter.2 ⟨hmem, hname⟩, rfl⟩)
  rw [requestOf, hlength]
  change (if _ then _ else _) = _
  by_cases hany : (headerLines head).any (fun header => eqIgnoreCase (trim header.1) "content-length") = true
  · simp only [hany, if_true, Option.isNone_some, Bool.false_and, Bool.false_eq_true, if_false]
    rw [if_neg (by have := h.small; omega), if_neg (by have := h.whole; omega)]
  · have hnil : contentLengthValues head = [] := by
      rw [contentLengthValues, List.map_eq_nil_iff, List.filter_eq_nil_iff]
      simpa using hany
    obtain ⟨rfl, hchunked⟩ := h.absent hnil
    simp only [hany, Bool.false_eq_true, if_false, hchunked, Bool.and_false, Nat.add_zero]

/-! ## Independence of the cut -/

variable (maxHeaderBytes maxBodyBytes stream)

/-- Every delivery of the stream is read the same, and a sound request is read as itself. -/
def ReadsAlike : Prop :=
  (∀ first second, Delivers 1024 first stream → Delivers 1024 second stream →
    readSubscriptionProxyHttpRequest maxHeaderBytes maxBodyBytes first =
      readSubscriptionProxyHttpRequest maxHeaderBytes maxBodyBytes second) ∧
  ∀ headerEnd length head, SoundRequest maxHeaderBytes maxBodyBytes stream headerEnd length head →
    ∀ chunks, Delivers 1024 chunks stream →
      readSubscriptionProxyHttpRequest maxHeaderBytes maxBodyBytes chunks = .ok (stream.take (headerEnd + 4 + length))

/-- The furthest end of the chunk that completes a head within the limit is within the limit. -/
def CutFits : Prop :=
  ∀ headerEnd, httpHeaderEnd stream = some headerEnd → headerEnd + 4 ≤ maxHeaderBytes →
    min stream.length (headerEnd + 4 + 1023) ≤ maxHeaderBytes

variable {maxHeaderBytes maxBodyBytes stream}

/-- If every delivery is read the same, the chunk that reaches furthest is read as the shortest one. -/
theorem cutFits_of_alike (h : ∀ first second, Delivers 1024 first stream → Delivers 1024 second stream →
    readSubscriptionProxyHttpRequest maxHeaderBytes maxBodyBytes first =
      readSubscriptionProxyHttpRequest maxHeaderBytes maxBodyBytes second) : CutFits maxHeaderBytes stream := by
  intro headerEnd hend hfits
  by_contra hpast
  have hlen := length_of_findWindow (by decide) hend
  simp only [List.length_cons, List.length_nil] at hlen
  obtain ⟨front, chunk, back, hshort, hfront, hcut⟩ := exists_delivery_at 1024 (headerEnd + 4)
    (headerEnd + 4) (by omega) (le_refl _) hlen (by omega)
  obtain ⟨front', chunk', back', hlong, hfront', hcut'⟩ := exists_delivery_at 1024 (headerEnd + 4)
    (min stream.length (headerEnd + 4 + 1023)) (by omega) (by omega) (Nat.min_le_left _ _) (by omega)
  have heq := h _ _ hshort hlong
  have hcutLength : (front ++ [chunk]).flatten.length = headerEnd + 4 := by
    rw [hcut, List.length_take]
    omega
  have hcutLength' : (front' ++ [chunk']).flatten.length = min stream.length (headerEnd + 4 + 1023) := by
    rw [hcut', List.length_take]
    omega
  rw [read_cut hend hshort hfront (by omega), read_cut hend hlong hfront' (by omega), hcutLength, hcutLength',
    if_neg (by omega), if_pos (by omega)] at heq
  exact requestOf_ne_tooLarge heq

theorem read_of_cutFits {chunks : List Bytes} (hfit : CutFits maxHeaderBytes stream)
    (hend : httpHeaderEnd stream = some headerEnd) (hd : Delivers 1024 chunks stream) :
    readSubscriptionProxyHttpRequest maxHeaderBytes maxBodyBytes chunks =
      if maxHeaderBytes < headerEnd + 4 then .error "http request header too large"
      else requestOf maxBodyBytes headerEnd stream := by
  obtain ⟨front, chunk, back, rfl, hfront, hcut⟩ := exists_head_cut hend hd
  have hnear := hd.cut_le hfront
  have hwhole := congrArg List.length hd.cut_whole
  rw [List.length_append] at hwhole
  rw [read_cut hend hd hfront hcut]
  by_cases hlarge : maxHeaderBytes < headerEnd + 4
  · rw [if_pos (by omega), if_pos hlarge]
  · have hle := hfit headerEnd hend (by omega)
    rw [if_neg (by omega), if_neg hlarge]

/-- **Independence**: the cut does not matter exactly if no last chunk of a head within the limit passes the
limit. -/
theorem reads_alike_iff (maxHeaderBytes maxBodyBytes : Nat) (stream : Bytes) :
    ReadsAlike maxHeaderBytes maxBodyBytes stream ↔ CutFits maxHeaderBytes stream := by
  refine ⟨fun h => cutFits_of_alike h.1, fun hfit => ⟨fun first second hfirst hsecond => ?_, ?_⟩⟩
  · cases hend : httpHeaderEnd stream with
    | none => rw [read_endless hend hfirst, read_endless hend hsecond]
    | some headerEnd => rw [read_of_cutFits hfit hend hfirst, read_of_cutFits hfit hend hsecond]
  · intro headerEnd length head hsound chunks hd
    have hfits := hsound.fits
    rw [read_of_cutFits hfit hsound.ends hd, if_neg (by omega), hsound.requestOf_eq]

end

/-! ## A body that comes with its head -/

def postHead : Bytes := utf8 "POST / HTTP/1.1\r\n\r\n"

def postBody : Bytes := utf8 "ab"

/-- A head of the limit's length is read when it comes alone, and refused when the body comes with it. -/
theorem cut_past_limit :
    Delivers 1024 [postHead, postBody] (postHead ++ postBody) ∧ Delivers 1024 [postHead ++ postBody] (postHead ++ postBody) ∧
      readSubscriptionProxyHttpRequest 19 0 [postHead, postBody] = .ok postHead ∧
      readSubscriptionProxyHttpRequest 19 0 [postHead ++ postBody] = .error "http request header too large" ∧
      ¬ ReadsAlike 19 0 (postHead ++ postBody) := by
  have hapart : Delivers 1024 [postHead, postBody] (postHead ++ postBody) :=
    ⟨by decide +kernel, by decide +kernel, by decide +kernel⟩
  have htogether : Delivers 1024 [postHead ++ postBody] (postHead ++ postBody) :=
    ⟨by decide +kernel, by decide +kernel, by decide +kernel⟩
  have hend : httpHeaderEnd (postHead ++ postBody) = some 15 := by decide +kernel
  have hread : readSubscriptionProxyHttpRequest 19 0 [postHead, postBody] = .ok postHead := by
    have hsound : SoundRequest 19 0 (postHead ++ postBody) 15 0 "POST / HTTP/1.1" := by
      have hhead : (postHead ++ postBody).take 15 = utf8 "POST / HTTP/1.1" := by decide +kernel
      have hlines : headerLines "POST / HTTP/1.1" = [] := by decide +kernel
      have htext : fromUtf8 ((postHead ++ postBody).take 15) = some ("POST / HTTP/1.1" : Text) := by
        rw [hhead, fromUtf8_utf8]
      refine ⟨hend, by decide, htext, ?_, fun _ => ⟨rfl, ?_⟩, by decide, by decide +kernel⟩
      · rw [contentLengthValues, hlines]
        rintro _ ⟨⟩
      · rw [requestHasChunkedBody, htext]
        simp only [hlines]
        rfl
    have hcut : readSubscriptionProxyHttpRequest 19 0 [postHead, postBody] =
        if 19 < ([] ++ [postHead]).flatten.length then .error "http request header too large"
        else requestOf 0 15 (postHead ++ postBody) := by
      have hshort : ([] : List Bytes).flatten.length < 15 + 4 := by decide
      have hlong : 15 + 4 ≤ ([] ++ [postHead]).flatten.length := by decide +kernel
      exact read_cut hend hapart hshort hlong
    rw [hcut, hsound.requestOf_eq]
    decide +kernel
  have hrefused : readSubscriptionProxyHttpRequest 19 0 [postHead ++ postBody] =
      .error "http request header too large" := by decide +kernel
  refine ⟨hapart, htogether, hread, hrefused, fun h => ?_⟩
  have heq := h.1 _ _ hapart htogether
  rw [hread, hrefused] at heq
  cases heq

end KeliNode
