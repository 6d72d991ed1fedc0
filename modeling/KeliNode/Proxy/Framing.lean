import KeliNode.Proxy.Request
import KeliNode.Proxy.Response

/-!
# What a printed response frames

Names and values that are printed hold no line end, and a name no colon either, so the head of a printed response
falls back into the lines it was printed from: the status line, the two lines of this proxy, then the upstream's
lines.  The fields this proxy sets itself are not among the upstream's.
-/

namespace KeliNode

open Lib

/-! ## Lines that are printed -/

section

variable {name value : Text} {c : Char}

theorem not_mem_of_validHttpHeaderName (h : validHttpHeaderName name = true) (hc : c.toNat < 128)
    (hbyte : isHeaderNameByte (UInt8.ofNat c.toNat) = false) : c ∉ name := by
  intro hmem
  simp only [validHttpHeaderName, Bool.and_eq_true, List.all_eq_true] at h
  rw [h.2 _ ((mem_utf8_iff hc).2 hmem)] at hbyte
  cases hbyte

/-- No byte of 128 or more stands in a name. -/
theorem isHeaderNameByte_lt {b : UInt8} (h : isHeaderNameByte b = true) : b.toNat < 128 := by
  have hall : ∀ n < 256, isHeaderNameByte (UInt8.ofNat n) = true → n < 128 := by decide +kernel
  exact hall b.toNat b.toNat_lt (by rwa [UInt8.ofNat_toNat])

theorem ascii_of_validHttpHeaderName (h : validHttpHeaderName name = true) (hc : c ∈ name) : c.toNat < 128 := by
  simp only [validHttpHeaderName, Bool.and_eq_true, List.all_eq_true] at h
  by_contra hbig
  obtain ⟨b, hb⟩ := List.exists_mem_of_length_pos (l := String.utf8EncodeChar c) (by
    rw [String.length_utf8EncodeChar]
    exact c.utf8Size_pos)
  have hlow := isHeaderNameByte_lt (h.2 b (List.mem_flatMap.2 ⟨c, hc, hb⟩))
  have hhigh := le_of_mem_utf8EncodeChar (by omega) hb
  omega

theorem isWhite_of_mem_header_name (h : validHttpHeaderName name = true) (hc : c ∈ name) : isWhite c = false := by
  have hascii := ascii_of_validHttpHeaderName h hc
  simp only [validHttpHeaderName, Bool.and_eq_true, List.all_eq_true] at h
  have hbyte := h.2 _ ((mem_utf8_iff hascii).2 hc)
  have hdark : ∀ n < 128, isHeaderNameByte (UInt8.ofNat n) = true → ¬ (9 ≤ n ∧ n ≤ 13) ∧ n ≠ 0x20 := by decide +kernel
  have hrange := hdark c.toNat hascii hbyte
  rw [Bool.eq_false_iff]
  intro hwhite
  simp only [isWhite, Bool.or_eq_true, Bool.and_eq_true, decide_eq_true_eq, beq_iff_eq] at hwhite
  omega

theorem trim_of_validHttpHeaderName (h : validHttpHeaderName name = true) : trim name = name :=
  trim_eq_self (fun _ hc => isWhite_of_mem_header_name h (List.mem_of_mem_head? hc))
    (fun _ hc => isWhite_of_mem_header_name h (List.mem_of_mem_getLast? hc))

theorem validHttpHeaderValue_iff : validHttpHeaderValue value = true ↔ '\r' ∉ value ∧ '\n' ∉ value := by
  have hcr : (0x0d : UInt8) ∈ utf8 value ↔ '\r' ∈ value := mem_utf8_iff (c := '\r') (by decide)
  have hlf : (0x0a : UInt8) ∈ utf8 value ↔ '\n' ∈ value := mem_utf8_iff (c := '\n') (by decide)
  rw [← hcr, ← hlf]
  simp only [validHttpHeaderValue, Bool.not_eq_true', List.any_eq_false, Bool.or_eq_true, decide_eq_true_eq, not_or]
  constructor
  · intro h
    exact ⟨fun hmem => (h _ hmem).1 rfl, fun hmem => (h _ hmem).2 rfl⟩
  · rintro ⟨hcr, hlf⟩ b hb
    exact ⟨fun heq => hcr (heq ▸ hb), fun heq => hlf (heq ▸ hb)⟩

/-- The name of the field that a line carries is `field`, in any case. -/
def fieldNamed (field line : Text) : Bool :=
  match splitOnce ':' line with
  | some (key, _) => eqIgnoreCase (trim key) field
  | none => false

theorem splitOnce_append {sep : Char} {s t : Text} (h : sep ∉ s) : splitOnce sep (s ++ sep :: t) = some (s, t) := by
  have hother : ∀ c ∈ s, decide (c ≠ sep) = true := by
    intro c hc
    rw [decide_eq_true_eq]
    rintro rfl
    exact h hc
  have htake : (s ++ sep :: t).takeWhile (· ≠ sep) = s := by
    rw [List.takeWhile_append_of_pos hother]
    simp
  have hdrop : (s ++ sep :: t).dropWhile (· ≠ sep) = sep :: t := by
    rw [List.dropWhile_append_of_pos hother]
    simp
  rw [splitOnce, if_pos (by simp), htake, hdrop]
  rfl

/-- A printed header is a line of its own field. -/
theorem fieldNamed_headerLine {field : Text} (h : validHttpHeaderName name = true) :
    fieldNamed field (headerLine (name, value)) = eqIgnoreCase name field := by
  have hcolon : ':' ∉ name := not_mem_of_validHttpHeaderName h (by decide) (by decide)
  have hsplit : splitOnce ':' (headerLine (name, value)) = some (name, ' ' :: value) := by
    have hline : headerLine (name, value) = name ++ ':' :: ' ' :: value := by simp [headerLine]
    rw [hline, splitOnce_append hcolon]
  rw [fieldNamed, hsplit]
  simp only [trim_of_validHttpHeaderName h]

end

/-! ## Headers that may be forwarded -/

section

variable {headers : BTreeMap Text Text} {key : Text}

theorem mem_forwardedHeaders (h : key ∈ forwardedHeaders headers) :
    isHopByHopHeader key = false ∧ eqIgnoreCase key "content-length" = false := by
  rw [forwardedHeaders, Std.ExtTreeMap.mem_filter] at h
  obtain ⟨hmem, hkept⟩ := h
  simp only [Std.ExtTreeMap.getKey_eq, Bool.and_eq_true, Bool.not_eq_true'] at hkept
  exact ⟨hkept.1.1, hkept.2⟩

theorem mem_of_mem_toList {value : Text} (h : (key, value) ∈ headers.toList) : key ∈ headers := by
  rw [Std.ExtTreeMap.mem_toList_iff_getElem?_eq_some] at h
  rw [Std.ExtTreeMap.mem_iff_isSome_getElem?, h]
  rfl

theorem takeCookieHeader_subset {taken : BTreeMap Text Text × List Text} {cookieKey : Text}
    (h : key ∈ (takeCookieHeader taken cookieKey).1) : key ∈ taken.1 := by
  unfold takeCookieHeader at h
  split at h
  · exact Std.ExtTreeMap.mem_of_mem_erase h
  · exact h

theorem foldl_takeCookieHeader_subset {cookieKeys : List Text} :
    ∀ {taken : BTreeMap Text Text × List Text}, key ∈ (cookieKeys.foldl takeCookieHeader taken).1 → key ∈ taken.1 := by
  induction cookieKeys with
  | nil => exact fun h => h
  | cons cookieKey cookieKeys ih => exact fun h => takeCookieHeader_subset (ih h)

/-- Rewriting adds no field. -/
theorem rewriteResponseHeaders_subset {cookies : List Text} {rewrite : Option WebsiteProxyRewriteContext}
    (h : key ∈ (rewriteResponseHeaders headers cookies rewrite).1) : key ∈ headers := by
  unfold rewriteResponseHeaders at h
  cases rewrite with
  | none => exact foldl_takeCookieHeader_subset h
  | some rewrite => exact foldl_takeCookieHeader_subset (Std.ExtTreeMap.mem_map.1 h)

end

/-! ## The head of a printed response -/

section

variable {client : SubscriptionProxyClientResponse}

/-- The headers that are printed. -/
def acceptedHeaders (client : SubscriptionProxyClientResponse) : List (Text × Text) :=
  client.headers.toList.filter fun header => validHttpHeaderName header.1 && validHttpHeaderValue header.2

def acceptedCookies (client : SubscriptionProxyClientResponse) : List Text :=
  client.setCookieHeaders.filter validHttpHeaderValue

/-- The lines of the head: this proxy's own, then one for each accepted header and cookie. -/
def headLines (client : SubscriptionProxyClientResponse) : List Text :=
  statusLine client :: contentLengthLine client :: connectionLine ::
    ((acceptedHeaders client).map headerLine ++ (acceptedCookies client).map setCookieLine)

theorem flatMap_ite {α β : Type} (p : α → Bool) (f : α → List β) (xs : List α) :
    (xs.flatMap fun x => if p x then f x else []) = (xs.filter p).flatMap f := by
  induction xs with
  | nil => rfl
  | cons x xs ih => by_cases hx : p x = true <;> simp [hx, ih]

/-- What is printed is the lines of the head, the empty line and the body. -/
theorem render_eq (client : SubscriptionProxyClientResponse) :
    renderSubscriptionProxyHttpResponse client =
      joinPair 0x0d 0x0a ((headLines client).map utf8) ++ 0x0d :: 0x0a :: 0x0d :: 0x0a :: client.body := by
  have hprint : ∀ line, printLine line = utf8 line ++ [0x0d, 0x0a] := by
    intro line
    rw [printLine, utf8_append]
    rfl
  have hend : utf8 ("\r\n" : String).toList = [0x0d, 0x0a] := rfl
  rw [joinPair_append (by simp [headLines])]
  simp only [renderSubscriptionProxyHttpResponse, hprint, hend, flatMap_ite (fun header : Text × Text =>
    validHttpHeaderName header.1 && validHttpHeaderValue header.2), flatMap_ite validHttpHeaderValue, headLines,
    List.map_cons, List.map_append, List.map_map, List.flatMap_cons, List.flatMap_append, List.flatMap_map,
    acceptedHeaders, acceptedCookies]
  simp

theorem not_mem_httpReasonPhrase {c : Char} (hc : c = ':' ∨ c = '\r') (status : UInt16) :
    c ∉ httpReasonPhrase status := by
  unfold httpReasonPhrase
  rcases hc with rfl | rfl <;> split <;> simp

theorem not_mem_statusLine {c : Char} (hc : c = ':' ∨ c = '\r') (client : SubscriptionProxyClientResponse) :
    c ∉ statusLine client := by
  apply not_mem_join
  · rcases hc with rfl | rfl <;> simp
  · intro part hpart
    simp only [List.mem_cons, List.not_mem_nil, or_false] at hpart
    rcases hpart with rfl | rfl | rfl
    · rcases hc with rfl | rfl <;> simp
    · exact not_mem_decimal (by rcases hc with rfl | rfl <;> decide) _
    · exact not_mem_httpReasonPhrase hc _

theorem fieldNamed_statusLine (field : Text) (client : SubscriptionProxyClientResponse) :
    fieldNamed field (statusLine client) = false := by
  have hcolon : ¬ (statusLine client).contains ':' = true := by
    rw [List.contains_iff_mem]
    exact not_mem_statusLine (.inl rfl) client
  rw [fieldNamed, splitOnce, if_neg hcolon]

theorem not_mem_headerLine {name value : Text} (hname : validHttpHeaderName name = true) (hvalue : '\r' ∉ value) :
    '\r' ∉ headerLine (name, value) := by
  have hname : '\r' ∉ name := not_mem_of_validHttpHeaderName hname (by decide) (by decide)
  simp [headerLine, hname, hvalue]

/-- The names this proxy prints itself. -/
theorem validHttpHeaderName_own : validHttpHeaderName "Content-Length" = true ∧
    validHttpHeaderName "Connection" = true ∧ validHttpHeaderName "Set-Cookie" = true := by
  decide +kernel

/-- No line of the head holds a line end, and none is empty. -/
theorem headLines_plain {line : Text} (h : line ∈ headLines client) : '\r' ∉ line ∧ line ≠ [] := by
  have hfull : ∀ header, headerLine header ≠ [] := by simp [headerLine]
  simp only [headLines, acceptedHeaders, acceptedCookies, List.mem_cons, List.mem_append, List.mem_map,
    List.mem_filter, Bool.and_eq_true] at h
  rcases h with rfl | rfl | rfl | ⟨⟨name, value⟩, ⟨_, hname, hvalue⟩, rfl⟩ | ⟨value, ⟨_, hvalue⟩, rfl⟩
  · exact ⟨not_mem_statusLine (.inr rfl) client, by simp [statusLine, join, List.intercalate]⟩
  · exact ⟨not_mem_headerLine validHttpHeaderName_own.1 (not_mem_decimal (by decide) _), hfull _⟩
  · exact ⟨not_mem_headerLine validHttpHeaderName_own.2.1 (by simp), hfull _⟩
  · exact ⟨not_mem_headerLine hname (validHttpHeaderValue_iff.1 hvalue).1, hfull _⟩
  · exact ⟨not_mem_headerLine validHttpHeaderName_own.2.2 (validHttpHeaderValue_iff.1 hvalue).1, hfull _⟩

/-- Only the lines of this proxy carry a field that neither the upstream's headers nor the cookies do. -/
theorem filter_headLines {field : Text} (hheaders : ∀ name ∈ client.headers, eqIgnoreCase name field = false)
    (hcookie : eqIgnoreCase "Set-Cookie" field = false) :
    (headLines client).filter (fieldNamed field) = [contentLengthLine client, connectionLine].filter (fieldNamed field) := by
  have hstatus := fieldNamed_statusLine field client
  have hupstream : ((acceptedHeaders client).map headerLine).filter (fieldNamed field) = [] := by
    rw [List.filter_eq_nil_iff]
    intro line hline
    obtain ⟨⟨name, value⟩, hheader, rfl⟩ := List.mem_map.1 hline
    rw [acceptedHeaders, List.mem_filter, Bool.and_eq_true] at hheader
    obtain ⟨hmem, hname, _⟩ := hheader
    rw [fieldNamed_headerLine hname, hheaders name (mem_of_mem_toList hmem)]
    simp
  have hcookies : ((acceptedCookies client).map setCookieLine).filter (fieldNamed field) = [] := by
    rw [List.filter_eq_nil_iff]
    intro line hline
    obtain ⟨value, _, rfl⟩ := List.mem_map.1 hline
    rw [setCookieLine, fieldNamed_headerLine validHttpHeaderName_own.2.2, hcookie]
    simp
  rw [headLines, List.filter_cons_of_neg (by simp [hstatus])]
  have hlines : contentLengthLine client :: connectionLine ::
      ((acceptedHeaders client).map headerLine ++ (acceptedCookies client).map setCookieLine) =
      [contentLengthLine client, connectionLine] ++
        ((acceptedHeaders client).map headerLine ++ (acceptedCookies client).map setCookieLine) := rfl
  rw [hlines, List.filter_append, List.filter_append, hupstream, hcookies, List.append_nil, List.append_nil]

theorem not_mem_utf8_headLines {bytes : Bytes} (h : bytes ∈ (headLines client).map utf8) : 0x0d ∉ bytes := by
  obtain ⟨line, hline, rfl⟩ := List.mem_map.1 h
  have hcr : (0x0d : UInt8) ∈ utf8 line ↔ '\r' ∈ line := mem_utf8_iff (c := '\r') (by decide)
  rw [hcr]
  exact (headLines_plain hline).1

theorem httpHeaderEnd_render (client : SubscriptionProxyClientResponse) :
    httpHeaderEnd (renderSubscriptionProxyHttpResponse client) =
      some (joinPair 0x0d 0x0a ((headLines client).map utf8)).length := by
  rw [render_eq, httpHeaderEnd]
  apply findWindow_joinPair (by decide) (by simp [headLines]) (fun _ hbytes => not_mem_utf8_headLines hbytes)
  · intro bytes hbytes
    obtain ⟨line, hline, rfl⟩ := List.mem_map.1 hbytes
    exact List.ne_nil_of_length_pos (byteLen_pos (headLines_plain hline).2)

/-- The names that a planned response keeps. -/
theorem forwarded_of_plan {response : SubscriptionProxyUpstreamResponse} {maxResponseBytes : Nat} {headOnly : Bool}
    {rewrite : Option WebsiteProxyRewriteContext}
    (h : planSubscriptionProxyResponse response maxResponseBytes headOnly rewrite = .ok client) {name : Text}
    (hname : name ∈ client.headers) : isHopByHopHeader name = false ∧ eqIgnoreCase name "content-length" = false := by
  unfold planSubscriptionProxyResponse at h
  generalize (if maxResponseBytes = 0 then defaultMaxResponseBytes else maxResponseBytes) = limit at h
  simp only at h
  split at h
  · cases h
  · cases h
    exact mem_forwardedHeaders (rewriteResponseHeaders_subset hname)

theorem eqIgnoreCase_of_forwarded {name field : Text} (h : isHopByHopHeader name = false)
    (hfield : isHopByHopHeader field = true) : eqIgnoreCase name field = false := by
  rw [eqIgnoreCase, decide_eq_false_iff_not]
  intro heq
  rw [isHopByHopHeader, heq, ← isHopByHopHeader, hfield] at h
  cases h

/-- **What is printed is framed**: the first empty line ends the head, the body follows, and the head is the status
line, one length of that body, one `Connection`, then the accepted headers and cookies in order. -/
theorem planned_response_framed {response : SubscriptionProxyUpstreamResponse} {maxResponseBytes : Nat}
    {headOnly : Bool} {rewrite : Option WebsiteProxyRewriteContext}
    (h : planSubscriptionProxyResponse response maxResponseBytes headOnly rewrite = .ok client) :
    ∃ headEnd, httpHeaderEnd (renderSubscriptionProxyHttpResponse client) = some headEnd ∧
      (renderSubscriptionProxyHttpResponse client).drop (headEnd + 4) = client.body ∧
      splitPair 0x0d 0x0a ((renderSubscriptionProxyHttpResponse client).take headEnd) = (headLines client).map utf8 ∧
      (headLines client).filter (fieldNamed "content-length") = [contentLengthLine client] ∧
      (headLines client).filter (fieldNamed "connection") = [connectionLine] ∧
      (headLines client).filter (fieldNamed "transfer-encoding") = [] := by
  have hown : ∀ field, [contentLengthLine client, connectionLine].filter (fieldNamed field) =
      (if eqIgnoreCase "Content-Length" field then [contentLengthLine client] else []) ++
        (if eqIgnoreCase "Connection" field then [connectionLine] else []) := by
    intro field
    have hlength : fieldNamed field (contentLengthLine client) = eqIgnoreCase "Content-Length" field :=
      fieldNamed_headerLine validHttpHeaderName_own.1
    have hconnection : fieldNamed field connectionLine = eqIgnoreCase "Connection" field :=
      fieldNamed_headerLine validHttpHeaderName_own.2.1
    simp only [List.filter_cons, hlength, hconnection, List.filter_nil]
    split <;> rfl
  have hhop : ∀ field, isHopByHopHeader field = true → ∀ name ∈ client.headers, eqIgnoreCase name field = false :=
    fun field hfield name hname => eqIgnoreCase_of_forwarded (forwarded_of_plan h hname).1 hfield
  refine ⟨_, httpHeaderEnd_render client, ?_, ?_, ?_, ?_, ?_⟩
  · rw [render_eq, List.drop_append]
    simp
  · rw [render_eq, List.take_left' rfl]
    exact splitPair_joinPair (by simp [headLines]) (fun _ hbytes => not_mem_utf8_headLines hbytes)
  · rw [filter_headLines (fun name hname => (forwarded_of_plan h hname).2) (by decide), hown]
    rfl
  · rw [filter_headLines (hhop _ (by decide)) (by decide), hown]
    rfl
  · rw [filter_headLines (hhop _ (by decide)) (by decide), hown]
    rfl

/-- An answer that tries to print a second head. -/
def splittingResponse : SubscriptionProxyUpstreamResponse where
  status := 200
  headers := ((∅ : BTreeMap Text Text).insert "Connection" "keep-alive").insert "X-Note" "a\r\nContent-Length: 9"
  setCookieHeaders := ["id=1\r\n\r\n", "lang=en"]
  body := [0x0d, 0x0a, 0x0d, 0x0a]

def splittingClientResponse : SubscriptionProxyClientResponse where
  status := 200
  headers := (∅ : BTreeMap Text Text).insert "X-Note" "a\r\nContent-Length: 9"
  setCookieHeaders := ["id=1\r\n\r\n", "lang=en"]
  body := [0x0d, 0x0a, 0x0d, 0x0a]

theorem splitting_response_framed :
    planSubscriptionProxyResponse splittingResponse 0 false none = .ok splittingClientResponse ∧
    ∃ headEnd, httpHeaderEnd (renderSubscriptionProxyHttpResponse splittingClientResponse) = some headEnd ∧
      (renderSubscriptionProxyHttpResponse splittingClientResponse).drop (headEnd + 4) = splittingClientResponse.body ∧
      splitPair 0x0d 0x0a ((renderSubscriptionProxyHttpResponse splittingClientResponse).take headEnd) =
        (headLines splittingClientResponse).map utf8 ∧
      (headLines splittingClientResponse).filter (fieldNamed "content-length") =
        [contentLengthLine splittingClientResponse] ∧
      (headLines splittingClientResponse).filter (fieldNamed "connection") = [connectionLine] ∧
      (headLines splittingClientResponse).filter (fieldNamed "transfer-encoding") = [] := by
  have hplan : planSubscriptionProxyResponse splittingResponse 0 false none = .ok splittingClientResponse := by
    with_unfolding_all rfl
  exact ⟨hplan, planned_response_framed hplan⟩

end

end KeliNode
