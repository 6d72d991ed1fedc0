import KeliNode.Proxy.Request

/-!
# The forwarding headers

Names are compared without case, the map with it.  `X-Forwarded-Host` and `X-Forwarded-Proto` are written under one
spelling, so another spelling that the client sent stays beside them; `X-Forwarded-For` is written under the first
spelling found, so two that the client sent stay two (`forwarding_sound_iff`).
-/

namespace KeliNode

open Lib

/-! ## Fields by name -/

/-- No header of this name, in any case. -/
def Absent (headers : BTreeMap Text Text) (field : Text) : Prop :=
  ∀ key ∈ headers, eqIgnoreCase key field = false

/-- One header of this name, in any case. -/
def Sole (headers : BTreeMap Text Text) (field value : Text) : Prop :=
  ∃ key, headers.get? key = some value ∧ eqIgnoreCase key field = true ∧
    ∀ other ∈ headers, eqIgnoreCase other field = true → other = key

/-- No other spelling of this name. -/
def OnlySpelling (headers : BTreeMap Text Text) (key field : Text) : Prop :=
  ∀ other ∈ headers, eqIgnoreCase other field = true → other = key

def AtMostOne (headers : BTreeMap Text Text) (field : Text) : Prop :=
  ∀ left ∈ headers, ∀ right ∈ headers, eqIgnoreCase left field = true → eqIgnoreCase right field = true → left = right

/-- The last element of a list of addresses. -/
def lastElement (value : Text) : Text := trim ((splitOn ',' value).getLastD [])

section

variable {headers : BTreeMap Text Text} {key field value inserted : Text}

theorem mem_of_get? (h : headers.get? key = some value) : key ∈ headers := by
  rw [Std.ExtTreeMap.mem_iff_isSome_getElem?, ← Std.ExtTreeMap.get?_eq_getElem?, h]
  rfl

theorem exists_get? (h : key ∈ headers) : ∃ value, headers.get? key = some value := by
  rw [Std.ExtTreeMap.mem_iff_isSome_getElem?, Option.isSome_iff_exists] at h
  exact h

theorem mem_insert_iff {other : Text} : other ∈ headers.insert key value ↔ other = key ∨ other ∈ headers := by
  rw [Std.ExtTreeMap.mem_insert, Std.compare_eq_iff_eq, eq_comm]

theorem get?_insert_self : (headers.insert key value).get? key = some value := by
  rw [Std.ExtTreeMap.get?_eq_getElem?, Std.ExtTreeMap.getElem?_insert_self]

theorem get?_insert_of_ne {other : Text} (h : other ≠ key) : (headers.insert key value).get? other = headers.get? other := by
  rw [Std.ExtTreeMap.get?_eq_getElem?, Std.ExtTreeMap.getElem?_insert, if_neg (by simpa using h.symm),
    Std.ExtTreeMap.get?_eq_getElem?]

theorem absent_insert_other (h : eqIgnoreCase key field = false) :
    Absent (headers.insert key inserted) field ↔ Absent headers field := by
  constructor
  · exact fun hall other hother => hall other (mem_insert_iff.2 (.inr hother))
  · intro hall other hother
    rcases mem_insert_iff.1 hother with rfl | hother
    · exact h
    · exact hall other hother

/-- **Frame**: a header of another name changes nothing. -/
theorem sole_insert_other (h : eqIgnoreCase key field = false) :
    Sole (headers.insert key inserted) field value ↔ Sole headers field value := by
  have hne : ∀ {other}, eqIgnoreCase other field = true → other ≠ key := by
    rintro other hother rfl
    rw [h] at hother
    cases hother
  constructor
  · rintro ⟨sole, hget, hsole, hall⟩
    rw [get?_insert_of_ne (hne hsole)] at hget
    exact ⟨sole, hget, hsole, fun other hother => hall other (mem_insert_iff.2 (.inr hother))⟩
  · rintro ⟨sole, hget, hsole, hall⟩
    refine ⟨sole, (get?_insert_of_ne (hne hsole)).trans hget, hsole, fun other hother hfield => ?_⟩
    exact hall other ((mem_insert_iff.1 hother).resolve_left (hne hfield)) hfield

/-- What was just written is the only one exactly if no other spelling was there. -/
theorem sole_insert (h : eqIgnoreCase key field = true) :
    Sole (headers.insert key inserted) field value ↔ value = inserted ∧ OnlySpelling headers key field := by
  constructor
  · rintro ⟨sole, hget, hsole, hall⟩
    obtain rfl := hall key (mem_insert_iff.2 (.inl rfl)) h
    rw [get?_insert_self] at hget
    exact ⟨(Option.some.inj hget).symm, fun other hother => hall other (mem_insert_iff.2 (.inr hother))⟩
  · rintro ⟨rfl, hall⟩
    refine ⟨key, get?_insert_self, h, fun other hother hfield => ?_⟩
    rcases mem_insert_iff.1 hother with rfl | hother
    · rfl
    · exact hall other hother hfield

theorem absent_insert (h : eqIgnoreCase key field = true) : ¬ Absent (headers.insert key inserted) field := by
  intro hall
  have hkey := hall key (mem_insert_iff.2 (.inl rfl))
  rw [h] at hkey
  cases hkey

end

/-! ## What is forwarded -/

section

variable {headers : BTreeMap Text Text} {key field value : Text}

/-- The header is passed on. -/
def isForwarded (key : Text) : Bool :=
  !isHopByHopHeader key && !eqIgnoreCase key "host" && !eqIgnoreCase key "content-length"

theorem getElem?_forwardedHeaders : (forwardedHeaders headers).get? key =
    if isForwarded key = true then headers.get? key else none := by
  rw [forwardedHeaders, Std.ExtTreeMap.get?_eq_getElem?, Std.ExtTreeMap.getElem?_filter', Std.ExtTreeMap.get?_eq_getElem?]
  change (headers[key]?).filter (fun _ => isForwarded key) = _
  generalize isForwarded key = kept
  cases headers[key]? <;> cases kept <;> rfl

theorem mem_forwardedHeaders_iff : key ∈ forwardedHeaders headers ↔ key ∈ headers ∧ isForwarded key = true := by
  constructor
  · intro h
    obtain ⟨value, hvalue⟩ := exists_get? h
    rw [getElem?_forwardedHeaders] at hvalue
    split at hvalue
    · exact ⟨mem_of_get? hvalue, by assumption⟩
    · cases hvalue
  · rintro ⟨hmem, hforwarded⟩
    obtain ⟨value, hvalue⟩ := exists_get? hmem
    have hkept : (forwardedHeaders headers).get? key = some value := by
      rw [getElem?_forwardedHeaders, if_pos hforwarded, hvalue]
    exact mem_of_get? hkept

/-- Names that differ in case only are passed on alike. -/
theorem isForwarded_congr (h : eqIgnoreCase key field = true) : isForwarded key = isForwarded field := by
  have hlower : asciiLower key = asciiLower field := of_decide_eq_true h
  simp only [isForwarded, isHopByHopHeader, eqIgnoreCase, hlower]

theorem sole_forwardedHeaders (hfield : isForwarded field = true) :
    Sole (forwardedHeaders headers) field value ↔ Sole headers field value := by
  constructor
  · rintro ⟨sole, hget, hsole, hall⟩
    rw [getElem?_forwardedHeaders, isForwarded_congr hsole, if_pos hfield] at hget
    refine ⟨sole, hget, hsole, fun other hother hname => ?_⟩
    exact hall other (mem_forwardedHeaders_iff.2 ⟨hother, (isForwarded_congr hname).trans hfield⟩) hname
  · rintro ⟨sole, hget, hsole, hall⟩
    refine ⟨sole, ?_, hsole, fun other hother => hall other (mem_forwardedHeaders_iff.1 hother).1⟩
    rw [getElem?_forwardedHeaders, isForwarded_congr hsole, if_pos hfield, hget]

theorem onlySpelling_forwardedHeaders (hfield : isForwarded field = true) :
    OnlySpelling (forwardedHeaders headers) key field ↔ OnlySpelling headers key field := by
  constructor
  · exact fun hall other hother hname =>
      hall other (mem_forwardedHeaders_iff.2 ⟨hother, (isForwarded_congr hname).trans hfield⟩) hname
  · exact fun hall other hother => hall other (mem_forwardedHeaders_iff.1 hother).1

theorem absent_forwardedHeaders (hfield : isForwarded field = true) :
    Absent (forwardedHeaders headers) field ↔ Absent headers field := by
  constructor
  · intro hall other hother
    rw [Bool.eq_false_iff]
    intro hname
    have hnone := hall other (mem_forwardedHeaders_iff.2 ⟨hother, (isForwarded_congr hname).trans hfield⟩)
    rw [hname] at hnone
    cases hnone
  · exact fun hall other hother => hall other (mem_forwardedHeaders_iff.1 hother).1

end

/-! ## The address that is added -/

section

variable {headers : BTreeMap Text Text} {ip value : Text}

theorem getLastD_splitOn_append (existing element : Text) :
    (splitOn ',' (existing ++ ", " ++ element)).getLastD [] = (splitOn ',' (' ' :: element)).getLastD [] := by
  have hregroup : existing ++ ", " ++ element = existing ++ ',' :: ' ' :: element := by simp
  rw [hregroup, splitOn, List.splitOn_append_cons_self, List.getLastD_eq_getLast?, List.getLastD_eq_getLast?,
    List.getLast?_append_of_ne_nil _ (List.splitOn_ne_nil _ _)]
  rfl

theorem lastElement_plain {element : Text} (h : ',' ∉ element) (htrim : trim element = element) :
    lastElement element = element ∧ lastElement (' ' :: element) = element := by
  have hspace : ',' ∉ ' ' :: element := by simp [h]
  have hblank : trim (' ' :: element) = element := by
    have hstart : trimStartMatches isWhite (' ' :: element) = trimStartMatches isWhite element := by
      rw [trimStartMatches, List.dropWhile_cons, if_pos (by decide)]
      rfl
    rw [trim, hstart, ← trim, htrim]
  constructor
  · rw [lastElement, splitOn, List.splitOn_eq_singleton h]
    exact htrim
  · rw [lastElement, splitOn, List.splitOn_eq_singleton hspace]
    exact hblank

theorem comma_notMem_lastElement (value : Text) : ',' ∉ lastElement value := by
  intro hmem
  have hstart : ',' ∈ trimStartMatches isWhite ((splitOn ',' value).getLastD []) :=
    (trimEndMatches_isPrefix _ _).subset hmem
  have hlast : ',' ∈ (splitOn ',' value).getLastD [] := (List.dropWhile_suffix _).subset hstart
  rw [List.getLastD_eq_getLast?] at hlast
  cases hparts : (splitOn ',' value).getLast? with
  | none => rw [hparts] at hlast; cases hlast
  | some part =>
    rw [hparts] at hlast
    exact (part_of_mem_splitOn (List.mem_of_getLast? hparts)).1 hlast

/-- The list that is written, behind what the client sent. -/
theorem lastElement_appended (existing ip : Text) :
    lastElement (if existing.isEmpty then trim ip else existing ++ ", " ++ trim ip) = trim ip ↔ ',' ∉ trim ip := by
  constructor
  · intro h
    rw [← h]
    exact comma_notMem_lastElement _
  · intro h
    obtain ⟨hself, hspace⟩ := lastElement_plain h (trim_trim ip)
    split
    · exact hself
    · rw [lastElement, getLastD_splitOn_append]
      exact hspace

/-- The header is written under the first spelling that was found. -/
theorem appendForwardedFor_eq (hip : trim ip ≠ []) : ∃ key existing, eqIgnoreCase key "X-Forwarded-For" = true ∧
    (OnlySpelling headers key "X-Forwarded-For" ↔ AtMostOne headers "X-Forwarded-For") ∧
    appendForwardedFor headers ip =
      headers.insert key (if existing.isEmpty then trim ip else existing ++ ", " ++ trim ip) := by
  have hself : eqIgnoreCase "X-Forwarded-For" "X-Forwarded-For" = true := by decide
  simp only [appendForwardedFor, List.isEmpty_iff, hip, if_false]
  refine ⟨_, _, ?_, ?_, rfl⟩
  · cases hfind : headers.keys.find? (eqIgnoreCase · "X-Forwarded-For") with
    | none => exact hself
    | some key => simpa using List.find?_some hfind
  · constructor
    · intro hall left hleft right hright hl hr
      rw [hall left hleft hl, hall right hright hr]
    · intro hall other hother hname
      cases hfind : headers.keys.find? (eqIgnoreCase · "X-Forwarded-For") with
      | none =>
        have hnone := List.find?_eq_none.1 hfind other (Std.ExtTreeMap.mem_keys.2 hother)
        exact absurd hname hnone
      | some key =>
        have hkey : key ∈ headers := Std.ExtTreeMap.mem_keys.1 (List.mem_of_find?_eq_some hfind)
        exact hall other hother key hkey hname (by simpa using List.find?_some hfind)

end

/-! ## Soundness -/

/-- What the upstream may rely on. -/
structure ForwardingSound (request : SubscriptionProxyInboundRequest) (headers : BTreeMap Text Text) : Prop where
  filtered : ∀ key ∈ headers, isForwarded key = true
  proto : Sole headers "X-Forwarded-Proto" "https"
  host : Absent headers "X-Forwarded-Host" ∨ Sole headers "X-Forwarded-Host" request.host
  source : request.remoteAddr ≠ [] → ∃ ip value, clientIp request.remoteAddr = some ip ∧
    Sole headers "X-Forwarded-For" value ∧ lastElement value = trim ip

/-- The client sent no forwarding header under a second spelling, and none that is not replaced. -/
structure HeadersPlain (request : SubscriptionProxyInboundRequest) : Prop where
  proto : OnlySpelling request.headers "X-Forwarded-Proto" "X-Forwarded-Proto"
  host : if request.host = [] then Absent request.headers "X-Forwarded-Host" ∨ Sole request.headers "X-Forwarded-Host" []
    else OnlySpelling request.headers "X-Forwarded-Host" "X-Forwarded-Host"
  source : request.remoteAddr ≠ [] → ∃ ip, clientIp request.remoteAddr = some ip ∧
    if trim ip = [] then ∃ value, Sole request.headers "X-Forwarded-For" value ∧ lastElement value = []
    else ',' ∉ trim ip ∧ AtMostOne request.headers "X-Forwarded-For"

/-! ## Parsed requests -/

section

variable {lines : List Text} {headers result : BTreeMap Text Text}

def Trimmed (headers : BTreeMap Text Text) : Prop := ∀ key value, headers.get? key = some value → trim value = value

theorem trimmed_addRequestHeader {line : Text} (h : addRequestHeader headers line = .ok result) (htrimmed : Trimmed headers) :
    Trimmed result := by
  unfold addRequestHeader at h
  split at h
  · cases h
    exact htrimmed
  · split at h
    · cases h
    · rename_i key value _
      split at h
      · cases h
      · cases h
        intro other given hget
        by_cases hother : other = trim key
        · rw [hother, get?_insert_self] at hget
          rw [← Option.some.inj hget, trim_trim]
        · rw [get?_insert_of_ne hother] at hget
          exact htrimmed other given hget

theorem trimmed_foldlM (h : lines.foldlM addRequestHeader headers = .ok result) (htrimmed : Trimmed headers) :
    Trimmed result := by
  induction lines generalizing headers with
  | nil =>
    cases h
    exact htrimmed
  | cons line lines ih =>
    rw [List.foldlM_cons] at h
    obtain ⟨next, hnext, h⟩ := bind_eq_ok.1 h
    exact ih h (trimmed_addRequestHeader hnext htrimmed)

/-- The host of a parsed request is trimmed. -/
theorem trim_host_of_parse {raw : Bytes} {remoteAddr : Text} {request : SubscriptionProxyInboundRequest}
    (h : parseSubscriptionProxyHttpRequest raw remoteAddr = .ok request) : trim request.host = request.host := by
  unfold parseSubscriptionProxyHttpRequest at h
  split at h
  · cases h
  · split at h
    · cases h
    · unfold parseRequestLines at h
      split at h
      · cases h
      · split at h
        · cases h
        · cases h
        · cases h
        · split at h
          · cases h
          · simp only at h
            split at h
            · cases h
            · obtain ⟨headers, hheaders, h⟩ := bind_eq_ok.1 h
              cases h
              have hempty : Trimmed ∅ := by
                intro key value hget
                rw [Std.ExtTreeMap.get?_eq_getElem?, Std.ExtTreeMap.getElem?_empty] at hget
                cases hget
              have htrimmed := trimmed_foldlM hheaders hempty
              change trim ((headers.toList.find? _).map _ |>.getD []) = _
              cases hfind : headers.toList.find? (fun header => eqIgnoreCase header.1 "host") with
              | none => rfl
              | some header =>
                have hmem := Std.ExtTreeMap.mem_toList_iff_getElem?_eq_some.1 (List.mem_of_find?_eq_some hfind)
                exact htrimmed header.1 header.2 hmem

end

/-! ## The headers of a request -/

section

variable {request : SubscriptionProxyInboundRequest}

/-- The headers before an address is added. -/
def namedHeaders (request : SubscriptionProxyInboundRequest) : BTreeMap Text Text :=
  (if (trim request.host).isEmpty then forwardedHeaders request.headers
    else (forwardedHeaders request.headers).insert "X-Forwarded-Host" (trim request.host)).insert "X-Forwarded-Proto" "https"

theorem upstreamForwardedHeaders_eq (request : SubscriptionProxyInboundRequest) : upstreamForwardedHeaders request =
    match clientIp request.remoteAddr with
    | some ip => appendForwardedFor (namedHeaders request) ip
    | none => namedHeaders request := rfl

theorem upstreamForwardedHeaders_of_clientIp {ip : Text} (h : clientIp request.remoteAddr = some ip) :
    upstreamForwardedHeaders request = appendForwardedFor (namedHeaders request) ip := by
  rw [upstreamForwardedHeaders_eq, h]

/-- The three names differ, whatever their case, and all are passed on. -/
theorem names_apart : eqIgnoreCase "X-Forwarded-Proto" "X-Forwarded-Host" = false ∧
    eqIgnoreCase "X-Forwarded-Proto" "X-Forwarded-For" = false ∧
    eqIgnoreCase "X-Forwarded-Host" "X-Forwarded-Proto" = false ∧
    eqIgnoreCase "X-Forwarded-Host" "X-Forwarded-For" = false ∧
    isForwarded "X-Forwarded-Proto" = true ∧ isForwarded "X-Forwarded-Host" = true ∧
    isForwarded "X-Forwarded-For" = true := by
  decide +kernel

theorem name_apart_of_eq {key left right : Text} (hkey : eqIgnoreCase key left = true)
    (h : eqIgnoreCase left right = false) : eqIgnoreCase key right = false := by
  have hlower : asciiLower key = asciiLower left := of_decide_eq_true hkey
  rw [eqIgnoreCase, hlower]
  exact h

theorem isForwarded_insert {headers : BTreeMap Text Text} {key value : Text} (hkey : isForwarded key = true)
    (h : ∀ other ∈ headers, isForwarded other = true) : ∀ other ∈ headers.insert key value, isForwarded other = true := by
  intro other hother
  rcases mem_insert_iff.1 hother with rfl | hother
  · exact hkey
  · exact h other hother

theorem appendForwardedFor_of_blank {headers : BTreeMap Text Text} {ip : Text} (hip : trim ip = []) :
    appendForwardedFor headers ip = headers := by
  rw [appendForwardedFor, hip]
  rfl

theorem isForwarded_namedHeaders : ∀ key ∈ namedHeaders request, isForwarded key = true := by
  obtain ⟨-, -, -, -, hproto, hhost, -⟩ := names_apart
  have hforwarded : ∀ key ∈ forwardedHeaders request.headers, isForwarded key = true :=
    fun key hkey => (mem_forwardedHeaders_iff.1 hkey).2
  apply isForwarded_insert hproto
  split
  · exact hforwarded
  · exact isForwarded_insert hhost hforwarded

theorem sole_proto : Sole (namedHeaders request) "X-Forwarded-Proto" "https" ↔
    OnlySpelling request.headers "X-Forwarded-Proto" "X-Forwarded-Proto" := by
  obtain ⟨-, -, hhostProto, -, hproto, -, -⟩ := names_apart
  rw [namedHeaders, sole_insert (by decide), and_iff_right rfl]
  split
  · exact onlySpelling_forwardedHeaders hproto
  · -- the host is written under another name
    refine Iff.trans ?_ (onlySpelling_forwardedHeaders hproto)
    constructor
    · exact fun hall other hother => hall other (mem_insert_iff.2 (.inr hother))
    · intro hall other hother hname
      rcases mem_insert_iff.1 hother with rfl | hother
      · rw [hhostProto] at hname
        cases hname
      · exact hall other hother hname

theorem sole_host (htrim : trim request.host = request.host) :
    (Absent (namedHeaders request) "X-Forwarded-Host" ∨ Sole (namedHeaders request) "X-Forwarded-Host" request.host) ↔
      if request.host = [] then Absent request.headers "X-Forwarded-Host" ∨ Sole request.headers "X-Forwarded-Host" []
      else OnlySpelling request.headers "X-Forwarded-Host" "X-Forwarded-Host" := by
  obtain ⟨hprotoHost, -, -, -, -, hhost, -⟩ := names_apart
  rw [namedHeaders, absent_insert_other hprotoHost, sole_insert_other hprotoHost, htrim]
  by_cases hempty : request.host = []
  · rw [if_pos hempty, if_pos (by simp [hempty]), absent_forwardedHeaders hhost, sole_forwardedHeaders hhost, hempty]
  · rw [if_neg hempty, if_neg (by simpa using hempty), or_iff_right (absent_insert (by decide)), sole_insert (by decide),
      and_iff_right rfl, onlySpelling_forwardedHeaders hhost]

theorem sole_for {value : Text} : Sole (namedHeaders request) "X-Forwarded-For" value ↔
    Sole request.headers "X-Forwarded-For" value := by
  obtain ⟨-, hprotoFor, -, hhostFor, -, -, hfor⟩ := names_apart
  rw [namedHeaders, sole_insert_other hprotoFor]
  split
  · exact sole_forwardedHeaders hfor
  · rw [sole_insert_other hhostFor]
    exact sole_forwardedHeaders hfor

theorem atMostOne_for : AtMostOne (namedHeaders request) "X-Forwarded-For" ↔ AtMostOne request.headers "X-Forwarded-For" := by
  obtain ⟨-, hprotoFor, -, hhostFor, -, -, hfor⟩ := names_apart
  have hmem : ∀ key, eqIgnoreCase key "X-Forwarded-For" = true → (key ∈ namedHeaders request ↔ key ∈ request.headers) := by
    intro key hkey
    have hne : ∀ {name}, eqIgnoreCase name "X-Forwarded-For" = false → key ≠ name := by
      rintro name hname rfl
      rw [hname] at hkey
      cases hkey
    rw [namedHeaders, mem_insert_iff, or_iff_right (hne hprotoFor)]
    have hforwarded : key ∈ forwardedHeaders request.headers ↔ key ∈ request.headers := by
      rw [mem_forwardedHeaders_iff, and_iff_left ((isForwarded_congr hkey).trans hfor)]
    split
    · exact hforwarded
    · rw [mem_insert_iff, or_iff_right (hne hhostFor), hforwarded]
  constructor
  · exact fun hall left hleft right hright hl hr =>
      hall left ((hmem left hl).2 hleft) right ((hmem right hr).2 hright) hl hr
  · exact fun hall left hleft right hright hl hr =>
      hall left ((hmem left hl).1 hleft) right ((hmem right hr).1 hright) hl hr

/-- The address that is added leaves the other two names alone. -/
theorem frame_forwarded : ∃ key existing, eqIgnoreCase key "X-Forwarded-For" = true ∧
    (upstreamForwardedHeaders request = namedHeaders request ∨
      upstreamForwardedHeaders request = (namedHeaders request).insert key existing) := by
  have hself : eqIgnoreCase "X-Forwarded-For" "X-Forwarded-For" = true := by decide
  rw [upstreamForwardedHeaders_eq]
  cases clientIp request.remoteAddr with
  | none => exact ⟨"X-Forwarded-For", [], hself, .inl rfl⟩
  | some ip =>
    by_cases hip : trim ip = []
    · refine ⟨"X-Forwarded-For", [], hself, .inl ?_⟩
      exact appendForwardedFor_of_blank hip
    · obtain ⟨key, existing, hkey, -, happend⟩ := @appendForwardedFor_eq (namedHeaders request) ip hip
      exact ⟨key, _, hkey, .inr happend⟩

theorem source_iff : (∃ ip value, clientIp request.remoteAddr = some ip ∧
      Sole (upstreamForwardedHeaders request) "X-Forwarded-For" value ∧ lastElement value = trim ip) ↔
    ∃ ip, clientIp request.remoteAddr = some ip ∧
      if trim ip = [] then ∃ value, Sole request.headers "X-Forwarded-For" value ∧ lastElement value = []
      else ',' ∉ trim ip ∧ AtMostOne request.headers "X-Forwarded-For" := by
  cases hclient : clientIp request.remoteAddr with
  | none =>
    constructor
    · rintro ⟨ip, value, hip, -⟩
      cases hip
    · rintro ⟨ip, hip, -⟩
      cases hip
  | some ip =>
    rw [upstreamForwardedHeaders_of_clientIp hclient]
    by_cases hip : trim ip = []
    · constructor
      · rintro ⟨ip', value, heq, hsole, hlast⟩
        cases heq
        rw [appendForwardedFor_of_blank hip, sole_for] at hsole
        exact ⟨ip, rfl, by rw [if_pos hip]; exact ⟨value, hsole, hlast.trans hip⟩⟩
      · rintro ⟨ip', heq, hvalue⟩
        cases heq
        rw [if_pos hip] at hvalue
        obtain ⟨value, hsole, hlast⟩ := hvalue
        refine ⟨ip, value, rfl, ?_, hlast.trans hip.symm⟩
        rw [appendForwardedFor_of_blank hip, sole_for]
        exact hsole
    · obtain ⟨key, existing, hkey, honly, happend⟩ := @appendForwardedFor_eq (namedHeaders request) ip hip
      constructor
      · rintro ⟨ip', value, heq, hsole, hlast⟩
        cases heq
        rw [happend, sole_insert hkey, honly, atMostOne_for] at hsole
        obtain ⟨rfl, hone⟩ := hsole
        exact ⟨ip, rfl, by rw [if_neg hip]; exact ⟨(lastElement_appended existing ip).1 hlast, hone⟩⟩
      · rintro ⟨ip', heq, hplain⟩
        cases heq
        rw [if_neg hip] at hplain
        obtain ⟨hcomma, hone⟩ := hplain
        refine ⟨ip, _, rfl, ?_, (lastElement_appended existing ip).2 hcomma⟩
        rw [happend, sole_insert hkey, honly, atMostOne_for]
        exact ⟨rfl, hone⟩

end

/-- **Forwarding headers**, for every request that parses: they are sound exactly if the client sent none of them under
another spelling. -/
theorem forwarding_sound_iff {raw : Bytes} {remoteAddr : Text} {request : SubscriptionProxyInboundRequest}
    (hparse : parseSubscriptionProxyHttpRequest raw remoteAddr = .ok request) :
    ForwardingSound request (upstreamForwardedHeaders request) ↔ HeadersPlain request := by
  have htrim := trim_host_of_parse hparse
  obtain ⟨-, -, -, -, -, -, hfor⟩ := names_apart
  obtain ⟨key, existing, hkey, hframe⟩ := @frame_forwarded request
  have hforProto : eqIgnoreCase key "X-Forwarded-Proto" = false := name_apart_of_eq hkey (by decide)
  have hforHost : eqIgnoreCase key "X-Forwarded-Host" = false := name_apart_of_eq hkey (by decide)
  have hproto : Sole (upstreamForwardedHeaders request) "X-Forwarded-Proto" "https" ↔
      OnlySpelling request.headers "X-Forwarded-Proto" "X-Forwarded-Proto" := by
    rw [← sole_proto]
    rcases hframe with heq | heq <;> rw [heq]
    exact sole_insert_other hforProto
  have hhost : (Absent (upstreamForwardedHeaders request) "X-Forwarded-Host" ∨
      Sole (upstreamForwardedHeaders request) "X-Forwarded-Host" request.host) ↔
      if request.host = [] then Absent request.headers "X-Forwarded-Host" ∨ Sole request.headers "X-Forwarded-Host" []
      else OnlySpelling request.headers "X-Forwarded-Host" "X-Forwarded-Host" := by
    rw [← sole_host htrim]
    rcases hframe with heq | heq <;> rw [heq]
    rw [absent_insert_other hforHost, sole_insert_other hforHost]
  have hfiltered : ∀ name ∈ upstreamForwardedHeaders request, isForwarded name = true := by
    rcases hframe with heq | heq <;> rw [heq]
    · exact isForwarded_namedHeaders
    · exact isForwarded_insert ((isForwarded_congr hkey).trans hfor) isForwarded_namedHeaders
  constructor
  · intro h
    exact ⟨hproto.1 h.proto, hhost.1 h.host, fun hremote => source_iff.1 (h.source hremote)⟩
  · intro h
    exact ⟨hfiltered, hproto.2 h.proto, hhost.2 h.host, fun hremote => source_iff.2 (h.source hremote)⟩

/-! ## A second spelling -/

def spoofedRaw : Bytes := utf8 "GET / HTTP/1.1\r\nx-forwarded-proto: http\r\n\r\n"

def spoofedRequest : SubscriptionProxyInboundRequest where
  method := "GET"
  path := "/"
  headers := (∅ : BTreeMap Text Text).insert "x-forwarded-proto" "http"
  remoteAddr := "192.0.2.7:5000"

theorem parse_spoofed : parseSubscriptionProxyHttpRequest spoofedRaw "192.0.2.7:5000" = .ok spoofedRequest := by
  have hend : httpHeaderEnd spoofedRaw = some 39 := by decide +kernel
  have hhead : spoofedRaw.take 39 = utf8 "GET / HTTP/1.1\r\nx-forwarded-proto: http" := by decide +kernel
  rw [parseSubscriptionProxyHttpRequest, hend]
  simp only [hhead, fromUtf8_utf8]
  with_unfolding_all rfl

/-- The request of the second spelling. -/
theorem forwarding_spoofed :
    ForwardingSound spoofedRequest (upstreamForwardedHeaders spoofedRequest) ↔ HeadersPlain spoofedRequest :=
  forwarding_sound_iff parse_spoofed

/-- `x-forwarded-proto: http` goes upstream beside `X-Forwarded-Proto: https`. -/
theorem spoofed_proto :
    parseSubscriptionProxyHttpRequest spoofedRaw "192.0.2.7:5000" = .ok spoofedRequest ∧
      (upstreamForwardedHeaders spoofedRequest).get? "x-forwarded-proto" = some "http" ∧
      ¬ ForwardingSound spoofedRequest (upstreamForwardedHeaders spoofedRequest) := by
  have hkept : (upstreamForwardedHeaders spoofedRequest).get? "x-forwarded-proto" = some "http" := by
    decide +kernel
  have hwritten : (upstreamForwardedHeaders spoofedRequest).get? "X-Forwarded-Proto" = some "https" := by
    decide +kernel
  refine ⟨parse_spoofed, hkept, fun h => ?_⟩
  obtain ⟨key, -, -, hall⟩ := h.proto
  have hlower := hall "x-forwarded-proto" (mem_of_get? hkept) (by decide)
  have hcamel := hall "X-Forwarded-Proto" (mem_of_get? hwritten) (by decide)
  have hdistinct : ("x-forwarded-proto" : Text) ≠ "X-Forwarded-Proto" := by decide
  exact hdistinct (hlower.trans hcamel.symm)

end KeliNode
