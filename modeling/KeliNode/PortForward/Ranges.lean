import KeliNode.PortForward.Plan

/-!
# What port ranges, expressions and matchers denote

A list of ranges denotes the ports it `covers`.  The cutting functions are set difference on that
denotation, the parser returns the expression's ports without the excluded one, and the matchers made
from ranges match exactly the ports of the ranges.
-/

namespace KeliNode

open Lib

/-! ## Ranges -/

def PortForwardRange.contains (range : PortForwardRange) (p : Nat) : Bool :=
  decide (range.start ≤ p) && decide (p ≤ range.stop)

@[simp] theorem PortForwardRange.contains_iff {range : PortForwardRange} {p : Nat} :
    range.contains p = true ↔ range.start ≤ p ∧ p ≤ range.stop := by
  simp [PortForwardRange.contains]

/-- The ports a list of ranges denotes. -/
def covers (ranges : List PortForwardRange) (p : Nat) : Bool := ranges.any (·.contains p)

@[simp] theorem covers_nil (p : Nat) : covers [] p = false := rfl

theorem covers_iff {ranges : List PortForwardRange} {p : Nat} :
    covers ranges p = true ↔ ∃ range ∈ ranges, range.start ≤ p ∧ p ≤ range.stop := by
  simp [covers]

@[simp] theorem covers_cons {range : PortForwardRange} {ranges : List PortForwardRange} {p : Nat} :
    covers (range :: ranges) p = true ↔ (range.start ≤ p ∧ p ≤ range.stop) ∨ covers ranges p = true := by
  simp [covers]

@[simp] theorem covers_append {xs ys : List PortForwardRange} {p : Nat} :
    covers (xs ++ ys) p = true ↔ covers xs p = true ∨ covers ys p = true := by
  simp [covers]

/-- Every range is a non-empty interval of `u16` values. -/
def Bounded (ranges : List PortForwardRange) : Prop :=
  ∀ range ∈ ranges, range.start ≤ range.stop ∧ range.stop ≤ 65535

theorem Bounded.append {xs ys : List PortForwardRange} (hx : Bounded xs) (hy : Bounded ys) :
    Bounded (xs ++ ys) := by
  intro range hr
  rcases List.mem_append.1 hr with h | h
  · exact hx range h
  · exact hy range h

/-! ## Cutting -/

theorem covers_subtractFrom {blocked range : PortForwardRange} {p : Nat} (hb : range.stop ≤ 65535) :
    covers (subtractFrom blocked range) p = true ↔
      (range.start ≤ p ∧ p ≤ range.stop) ∧ ¬(blocked.start ≤ p ∧ p ≤ blocked.stop) := by
  unfold subtractFrom
  by_cases ho : range.overlaps blocked = true
  · have ho' : range.start ≤ blocked.stop ∧ blocked.start ≤ range.stop := by
      simpa [PortForwardRange.overlaps] using ho
    simp only [ho, Bool.not_true, Bool.false_eq_true, if_false, covers_append, saturatingSucc16]
    split <;> split <;> simp only [covers_cons, covers_nil, Bool.false_eq_true, or_false, false_or, false_iff] <;> omega
  · have ho' : ¬(range.start ≤ blocked.stop ∧ blocked.start ≤ range.stop) := by
      simpa [PortForwardRange.overlaps] using ho
    simp only [ho, Bool.not_false, if_true, covers_cons, covers_nil, Bool.false_eq_true, or_false]
    omega

theorem bounded_subtractFrom {blocked range : PortForwardRange}
    (hb : range.start ≤ range.stop ∧ range.stop ≤ 65535) : Bounded (subtractFrom blocked range) := by
  intro r hr
  unfold subtractFrom at hr
  by_cases ho : range.overlaps blocked = true
  · have ho' : range.start ≤ blocked.stop ∧ blocked.start ≤ range.stop := by
      simpa [PortForwardRange.overlaps] using ho
    simp only [ho, Bool.not_true, Bool.false_eq_true, if_false, List.mem_append] at hr
    rcases hr with hr | hr
    · split at hr <;> simp at hr
      subst hr
      simp only
      omega
    · split at hr <;> simp at hr
      subst hr
      simp only [saturatingSucc16]
      omega
  · simp [ho] at hr
    subst hr
    exact hb

/-- **Subtracting a range** removes exactly its ports. -/
theorem covers_subtractRange {ranges : List PortForwardRange} {blocked : PortForwardRange} {p : Nat}
    (hb : Bounded ranges) :
    covers (subtractRange ranges blocked) p = true ↔
      covers ranges p = true ∧ ¬(blocked.start ≤ p ∧ p ≤ blocked.stop) := by
  induction ranges with
  | nil => simp [subtractRange]
  | cons range ranges ih =>
    have hrange : range.stop ≤ 65535 := (hb range List.mem_cons_self).2
    have hrest : Bounded ranges := fun r hr => hb r (List.mem_cons_of_mem _ hr)
    have ih' := ih hrest
    simp only [subtractRange, List.flatMap_cons, covers_append, covers_cons] at ih' ⊢
    rw [covers_subtractFrom hrange, ih']
    tauto

theorem bounded_subtractRange {ranges : List PortForwardRange} (blocked : PortForwardRange)
    (hb : Bounded ranges) : Bounded (subtractRange ranges blocked) := by
  intro r hr
  obtain ⟨range, hrange, hr⟩ := List.mem_flatMap.1 hr
  exact bounded_subtractFrom (hb range hrange) r hr

/-- The shape both trim loops have: for each item, skip it or subtract its range. -/
theorem covers_foldl_subtract {α : Type} (skip : α → Prop) [DecidablePred skip] (cut : α → PortForwardRange)
    (items : List α) : ∀ (ranges : List PortForwardRange), Bounded ranges →
      let out := items.foldl (fun ranges a => if skip a then ranges else subtractRange ranges (cut a)) ranges
      Bounded out ∧ ∀ p, covers out p = true ↔
        covers ranges p = true ∧ ∀ a ∈ items, ¬skip a → ¬((cut a).start ≤ p ∧ p ≤ (cut a).stop) := by
  induction items with
  | nil => intro ranges hb; simpa using hb
  | cons a items ih =>
    intro ranges hb
    simp only [List.foldl_cons, List.forall_mem_cons]
    by_cases hs : skip a
    · simp only [hs, if_true, not_true_eq_false, false_implies, true_and]
      exact ih ranges hb
    · simp only [hs, if_false, not_false_eq_true, true_implies]
      obtain ⟨hb', hc⟩ := ih _ (bounded_subtractRange (cut a) hb)
      refine ⟨hb', fun p => ?_⟩
      rw [hc p, covers_subtractRange hb, and_assoc]

theorem covers_trimTargetPortConflicts {ranges : List PortForwardRange} (hb : Bounded ranges)
    (targetPort : Nat) (targetPorts : BTreeMap Nat Nat) :
    Bounded (trimTargetPortConflicts ranges targetPort targetPorts) ∧
    ∀ p, covers (trimTargetPortConflicts ranges targetPort targetPorts) p = true ↔
      covers ranges p = true ∧ ∀ port ∈ targetPorts, port ≠ targetPort → p ≠ port := by
  obtain ⟨h₁, h₂⟩ := covers_foldl_subtract (fun port => port = targetPort) (fun port => ⟨port, port⟩)
    targetPorts.keys ranges hb
  refine ⟨h₁, fun p => ?_⟩
  rw [show covers (trimTargetPortConflicts ranges targetPort targetPorts) p = true ↔ _ from h₂ p]
  refine and_congr_right fun _ => ?_
  simp only [Std.ExtTreeMap.mem_keys]
  refine forall₃_congr fun port _ _ => ?_
  omega

theorem covers_trimAllocatedRangeConflicts {ranges : List PortForwardRange} (hb : Bounded ranges)
    (targetPort : Nat) (protocol : Text) (allocated : List AllocatedPortForwardRange) :
    Bounded (trimAllocatedRangeConflicts ranges targetPort protocol allocated) ∧
    ∀ p, covers (trimAllocatedRangeConflicts ranges targetPort protocol allocated) p = true ↔
      covers ranges p = true ∧ ∀ a ∈ allocated, a.targetPort ≠ targetPort → a.protocol = protocol →
        a.range.contains p = false := by
  obtain ⟨h₁, h₂⟩ := covers_foldl_subtract
    (fun a : AllocatedPortForwardRange => a.targetPort = targetPort ∨ a.protocol ≠ protocol)
    (fun a => a.range) allocated ranges hb
  refine ⟨h₁, fun p => ?_⟩
  rw [show covers (trimAllocatedRangeConflicts ranges targetPort protocol allocated) p = true ↔ _ from h₂ p]
  refine and_congr_right fun _ => forall₂_congr fun a _ => ?_
  rw [← Bool.not_eq_true, PortForwardRange.contains_iff]
  tauto

/-! ## Port expressions -/

/-- One token of a port expression: a port, or a range of ports. -/
def tokenRange (token : Text) : Except Text PortForwardRange :=
  if token.isEmpty then .error "empty token"
  else if token.contains '-' || token.contains ':' then
    (parsePortRange token).map fun bounds => ⟨bounds.1, bounds.2⟩
  else (parsePortNumber token).map fun port => ⟨port, port⟩

/-- What a port expression means: the ranges its comma-separated tokens name. -/
def portExpression (raw : Text) : Except Text (List PortForwardRange) :=
  if (cleanPortExpression raw).isEmpty then .error "empty port"
  else (splitOn ',' (cleanPortExpression raw)).mapM tokenRange

theorem parsePortNumber_bounds {token : Text} {port : Nat} (h : parsePortNumber token = .ok port) :
    1 ≤ port ∧ port ≤ 65535 := by
  unfold parsePortNumber at h
  split at h
  · cases h
  · split at h
    · cases h
    · split at h
      · cases h
      · cases h; omega

theorem parsePortRange_bounds {token : Text} {start stop : Nat}
    (h : parsePortRange token = .ok (start, stop)) : 1 ≤ start ∧ start ≤ stop ∧ stop ≤ 65535 := by
  unfold parsePortRange at h
  simp only at h
  split at h
  · rename_i first last _
    cases hf : parsePortNumber first with
    | error e => simp [hf, bind, Except.bind] at h
    | ok a =>
      cases hl : parsePortNumber last with
      | error e => simp [hf, hl, bind, Except.bind] at h
      | ok b =>
        simp only [hf, hl, bind, Except.bind] at h
        split at h
        · cases h
        · cases h
          have := parsePortNumber_bounds hf
          have := parsePortNumber_bounds hl
          omega
  · cases h

theorem tokenRange_bounds {token : Text} {range : PortForwardRange} (h : tokenRange token = .ok range) :
    1 ≤ range.start ∧ range.start ≤ range.stop ∧ range.stop ≤ 65535 := by
  unfold tokenRange at h
  split at h
  · cases h
  · split at h
    · cases hr : parsePortRange token with
      | error e => simp [hr, Except.map] at h
      | ok bounds =>
        simp only [hr, Except.map, Except.ok.injEq] at h
        subst h
        exact parsePortRange_bounds hr
    · cases hp : parsePortNumber token with
      | error e => simp [hp, Except.map] at h
      | ok port =>
        simp only [hp, Except.map, Except.ok.injEq] at h
        subst h
        have := parsePortNumber_bounds hp
        simp only
        omega

theorem mapM_tokenRange_pos : ∀ (tokens : List Text) {xs : List PortForwardRange},
    tokens.mapM tokenRange = .ok xs → ∀ range ∈ xs, 1 ≤ range.start
  | [], _, h => by cases h; simp
  | token :: tokens, xs, h => by
    rw [List.mapM_cons] at h
    cases ht : tokenRange token with
    | error e => rw [ht] at h; cases h
    | ok range =>
      cases hm : tokens.mapM tokenRange with
      | error e => rw [ht, hm] at h; cases h
      | ok rest =>
        rw [ht, hm] at h
        cases h
        exact List.forall_mem_cons.2 ⟨(tokenRange_bounds ht).1, mapM_tokenRange_pos tokens hm⟩

/-- No expression names port 0. -/
theorem portExpression_pos {raw : Text} {xs : List PortForwardRange} {p : Nat}
    (h : portExpression raw = .ok xs) (hp : covers xs p = true) : 1 ≤ p := by
  unfold portExpression at h
  split at h
  · cases h
  · obtain ⟨range, hr, hle, _⟩ := covers_iff.1 hp
    have := mapM_tokenRange_pos _ h range hr
    omega

theorem portExpression_nil : portExpression [] = .error "empty port" := rfl

theorem covers_addSingle {port excludedPort : Nat} {st : ParseState} {p : Nat} :
    covers (addSingle port excludedPort st).ranges p = true ↔
      covers st.ranges p = true ∨ (p = port ∧ p ≠ excludedPort) := by
  unfold addSingle
  split
  · constructor
    · exact Or.inl
    · rintro (h | ⟨rfl, h⟩)
      · exact h
      · contradiction
  · simp only [covers_append, covers_cons, covers_nil, Bool.false_eq_true, or_false]
    refine or_congr_right ?_
    omega

theorem covers_rangePieces {start stop excludedPort p : Nat} (hs : 1 ≤ start) :
    covers (rangePieces start stop excludedPort) p = true ↔
      (start ≤ p ∧ p ≤ stop) ∧ p ≠ excludedPort := by
  unfold rangePieces
  split
  · simp only [covers_append]
    split <;> split <;>
      simp only [covers_cons, covers_nil, Bool.false_eq_true, or_false, false_or, false_iff] <;> omega
  · simp only [covers_cons, covers_nil, Bool.false_eq_true, or_false]
    omega

theorem bounded_rangePieces {start stop excludedPort : Nat} (hb : start ≤ stop ∧ stop ≤ 65535) :
    Bounded (rangePieces start stop excludedPort) := by
  intro r hr
  unfold rangePieces at hr
  split at hr
  · rcases List.mem_append.1 hr with hr | hr <;> split at hr <;> simp at hr <;> subst hr <;> simp only <;> omega
  · simp at hr
    subst hr
    exact hb

theorem addToken_error {excludedPort : Nat} {st : ParseState} {token e : Text}
    (h : tokenRange token = .error e) : addToken excludedPort st token = .error e := by
  unfold tokenRange at h
  unfold addToken
  by_cases hemp : token.isEmpty = true
  · rw [if_pos hemp] at h ⊢
    cases h
    rfl
  · rw [if_neg hemp] at h ⊢
    by_cases hsep : (token.contains '-' || token.contains ':') = true
    · rw [if_pos hsep] at h ⊢
      cases hr : parsePortRange token with
      | error e' =>
        rw [hr] at h
        cases h
        rfl
      | ok bounds => simp [hr, Except.map] at h
    · rw [if_neg hsep] at h ⊢
      cases hp : parsePortNumber token with
      | error e' =>
        rw [hp] at h
        cases h
        rfl
      | ok port => simp [hp, Except.map] at h

/-- One round of the token loop adds the token's ports, less the excluded one. -/
theorem addToken_ok (excludedPort : Nat) {st : ParseState} {token : Text} {range : PortForwardRange}
    (h : tokenRange token = .ok range) (hb : Bounded st.ranges) :
    ∃ st', addToken excludedPort st token = .ok st' ∧ Bounded st'.ranges ∧
      ∀ p, covers st'.ranges p = true ↔
        covers st.ranges p = true ∨ ((range.start ≤ p ∧ p ≤ range.stop) ∧ p ≠ excludedPort) := by
  have hbounds := tokenRange_bounds h
  have hsingle : ∀ port, port ≤ 65535 → Bounded (addSingle port excludedPort st).ranges := by
    intro port hport
    unfold addSingle
    split
    · exact hb
    · exact hb.append (by simpa [Bounded] using hport)
  unfold tokenRange at h
  unfold addToken
  split at h
  · cases h
  · rename_i hne
    simp only [hne, Bool.false_eq_true, if_false]
    split at h
    · rename_i hsep
      simp only [hsep, if_true]
      cases hr : parsePortRange token with
      | error e => simp [hr, Except.map] at h
      | ok bounds =>
        obtain ⟨start, stop⟩ := bounds
        simp only [hr, Except.map, Except.ok.injEq] at h
        subst h
        by_cases heq : start = stop
        · subst heq
          refine ⟨addSingle start excludedPort st, by simp [bind, Except.bind], hsingle _ hbounds.2.2, ?_⟩
          intro p
          rw [covers_addSingle]
          refine or_congr_right ?_
          simp only
          omega
        · refine ⟨addRange start stop excludedPort
            { st with singles := [], matchers := flushSingles st.singles st.matchers },
            by simp only [bind, Except.bind, heq, if_false], ?_, ?_⟩
          · exact hb.append (bounded_rangePieces hbounds.2)
          · intro p
            simp only [addRange, covers_append]
            rw [covers_rangePieces hbounds.1]
    · rename_i hsep
      simp only [hsep]
      cases hp : parsePortNumber token with
      | error e => simp [hp, Except.map] at h
      | ok port =>
        simp only [hp, Except.map, Except.ok.injEq] at h
        subst h
        refine ⟨addSingle port excludedPort st, by simp [bind, Except.bind], hsingle _ hbounds.2.2, ?_⟩
        intro p
        rw [covers_addSingle]
        refine or_congr_right ?_
        simp only
        omega

theorem foldlM_addToken (excludedPort : Nat) : ∀ (tokens : List Text) (st : ParseState), Bounded st.ranges →
    (∀ e, tokens.mapM tokenRange = .error e → tokens.foldlM (addToken excludedPort) st = .error e) ∧
    (∀ xs, tokens.mapM tokenRange = .ok xs →
      ∃ st', tokens.foldlM (addToken excludedPort) st = .ok st' ∧ Bounded st'.ranges ∧
        ∀ p, covers st'.ranges p = true ↔
          covers st.ranges p = true ∨ (covers xs p = true ∧ p ≠ excludedPort))
  | [], st, hb => by
    refine ⟨fun e he => (by cases he), fun xs hxs => ?_⟩
    cases hxs
    exact ⟨st, rfl, hb, by simp⟩
  | token :: tokens, st, hb => by
    simp only [List.mapM_cons, List.foldlM_cons]
    cases ht : tokenRange token with
    | error e₀ =>
      refine ⟨fun e he => ?_, fun xs hxs => (by cases hxs)⟩
      cases he
      rw [addToken_error ht]
      rfl
    | ok range =>
      obtain ⟨st₁, h₁, hb₁, hc₁⟩ := addToken_ok excludedPort ht hb
      obtain ⟨ihe, iho⟩ := foldlM_addToken excludedPort tokens st₁ hb₁
      rw [h₁]
      cases hm : tokens.mapM tokenRange with
      | error e₀ =>
        refine ⟨fun e he => ?_, fun xs hxs => (by cases hxs)⟩
        cases he
        exact ihe _ hm
      | ok rest =>
        refine ⟨fun e he => (by cases he), fun xs hxs => ?_⟩
        cases hxs
        obtain ⟨st₂, h₂, hb₂, hc₂⟩ := iho rest hm
        refine ⟨st₂, h₂, hb₂, fun p => ?_⟩
        rw [hc₂, hc₁, covers_cons]
        tauto

/-- **The parser** fails with the expression's error, and otherwise returns the expression's ports
without the excluded port. -/
theorem parse_error {raw e : Text} {excludedPort : Nat} (h : portExpression raw = .error e) :
    parsePortForwardMatchersAndRangesExcept raw excludedPort = .error e := by
  unfold portExpression at h
  unfold parsePortForwardMatchersAndRangesExcept
  simp only
  split at h
  · cases h
    simp_all
  · rename_i hne
    simp only [hne]
    rw [(foldlM_addToken excludedPort _ {} (by simp [Bounded])).1 e h]
    rfl

theorem parse_ok {raw : Text} {xs : List PortForwardRange} (excludedPort : Nat)
    (h : portExpression raw = .ok xs) :
    ∃ matchers ranges, parsePortForwardMatchersAndRangesExcept raw excludedPort = .ok (matchers, ranges) ∧
      Bounded ranges ∧ ∀ p, covers ranges p = true ↔ covers xs p = true ∧ p ≠ excludedPort := by
  unfold portExpression at h
  unfold parsePortForwardMatchersAndRangesExcept
  simp only
  split at h
  · cases h
  · rename_i hne
    simp only [hne]
    obtain ⟨st, hst, hb, hc⟩ :=
      (foldlM_addToken excludedPort _ {} (by simp [Bounded])).2 xs h
    rw [hst]
    refine ⟨_, _, rfl, hb, fun p => ?_⟩
    rw [hc]
    simp

/-! ## Matchers -/

/-- How iptables reads `--dport`: one port, or `start:end`. -/
def readPortSpec (spec : Text) : Option PortForwardRange :=
  match splitOn ':' spec with
  | [port] => (parseUnsigned 65536 port).map fun p => ⟨p, p⟩
  | [first, last] => do
    let start ← parseUnsigned 65536 first
    let stop ← parseUnsigned 65536 last
    some ⟨start, stop⟩
  | _ => none

/-- How iptables reads `--dports`: a comma list of at most 15 ports. -/
def readMultiport (list : Text) : Option (List PortForwardRange) := do
  let ports ← (splitOn ',' list).mapM (parseUnsigned 65536)
  if ports.length ≤ 15 then some (ports.map fun p => ⟨p, p⟩) else none

/-- The ports a matcher's arguments denote; `none` for arguments iptables would not take. -/
def PortForwardMatcher.ports (matcher : PortForwardMatcher) : Option (List PortForwardRange) :=
  match matcher.args with
  | [flag, spec] => if flag = "--dport" then (readPortSpec spec).map fun range => [range] else none
  | [match_, multiport, flag, list] =>
    if match_ = "-m" ∧ multiport = "multiport" ∧ flag = "--dports" then readMultiport list else none
  | _ => none

def PortForwardMatcher.matchesPort (matcher : PortForwardMatcher) (p : Nat) : Bool :=
  match matcher.ports with
  | some ranges => covers ranges p
  | none => false

theorem mapM_parseUnsigned_decimal : ∀ (ports : List Nat), (∀ p ∈ ports, p ≤ 65535) →
    (ports.map decimal).mapM (parseUnsigned 65536) = some ports
  | [], _ => rfl
  | p :: ports, h => by
    have hp : p < 65536 := by have := h p List.mem_cons_self; omega
    rw [List.map_cons, List.mapM_cons, parseUnsigned_decimal hp,
      mapM_parseUnsigned_decimal ports fun q hq => h q (List.mem_cons_of_mem _ hq)]
    rfl

theorem readMultiport_join {chunk : List Nat} (hne : chunk ≠ []) (hlen : chunk.length ≤ 15)
    (hb : ∀ p ∈ chunk, p ≤ 65535) :
    readMultiport (join [','] (chunk.map decimal)) = some (chunk.map fun p => ⟨p, p⟩) := by
  have hfree : ∀ part ∈ chunk.map decimal, ',' ∉ part := by
    intro part hpart
    obtain ⟨p, _, rfl⟩ := List.mem_map.1 hpart
    exact not_mem_decimal (by decide) p
  unfold readMultiport
  rw [splitOn_join _ _ (by simpa using hne) hfree, mapM_parseUnsigned_decimal chunk hb]
  simp [hlen]

theorem readPortSpec_decimal {p : Nat} (hp : p ≤ 65535) : readPortSpec (decimal p) = some ⟨p, p⟩ := by
  have hsplit : splitOn ':' (decimal p) = [decimal p] := by
    have h := splitOn_join ':' [decimal p] (by simp)
      (by simpa using not_mem_decimal (by decide) p)
    simpa [join, List.intercalate] using h
  simp [readPortSpec, hsplit, parseUnsigned_decimal (show p < 65536 by omega)]

theorem readPortSpec_range {range : PortForwardRange} (hb : range.start ≤ range.stop ∧ range.stop ≤ 65535) :
    readPortSpec (decimal range.start ++ ':' :: decimal range.stop) = some range := by
  have hsplit : splitOn ':' (decimal range.start ++ ':' :: decimal range.stop) =
      [decimal range.start, decimal range.stop] := by
    have h := splitOn_join ':' [decimal range.start, decimal range.stop] (by simp)
      (by simpa using ⟨not_mem_decimal (by decide) _, not_mem_decimal (by decide) _⟩)
    simpa [join, List.intercalate] using h
  simp [readPortSpec, hsplit, parseUnsigned_decimal (show range.start < 65536 by omega),
    parseUnsigned_decimal (show range.stop < 65536 by omega)]

theorem ports_rangeMatcher {range : PortForwardRange} (hb : range.start ≤ range.stop ∧ range.stop ≤ 65535) :
    (rangeMatcher range).ports = some [range] := by
  simp [PortForwardMatcher.ports, rangeMatcher, readPortSpec_range hb]

theorem ports_singlesMatcher {chunk : List Nat} (hne : chunk ≠ []) (hlen : chunk.length ≤ 15)
    (hb : ∀ p ∈ chunk, p ≤ 65535) : (singlesMatcher chunk).ports = some (chunk.map fun p => ⟨p, p⟩) := by
  unfold singlesMatcher
  split
  · simp [PortForwardMatcher.ports, readPortSpec_decimal (hb _ List.mem_cons_self)]
  · simp [PortForwardMatcher.ports, readMultiport_join hne hlen hb]

/-- Matchers iptables accepts, whose arguments are plain words. -/
structure PortForwardMatcher.WellFormed (matcher : PortForwardMatcher) : Prop where
  accepted : matcher.ports.isSome
  args_ne_nil : matcher.args ≠ []
  args_word : ∀ arg ∈ matcher.args, isWord arg = true

theorem PortForwardMatcher.WellFormed.args_free {matcher : PortForwardMatcher} (h : matcher.WellFormed) :
    ∀ arg ∈ matcher.args, Char.ofNat 0 ∉ arg := fun arg harg =>
  not_mem_of_isPlain (fun c hc => ((isWord_iff.1 (h.args_word arg harg)).2 c hc).1) (by decide)

theorem wellFormed_rangeMatcher {range : PortForwardRange}
    (hb : range.start ≤ range.stop ∧ range.stop ≤ 65535) : (rangeMatcher range).WellFormed where
  accepted := by simp [ports_rangeMatcher hb]
  args_ne_nil := by simp [rangeMatcher]
  args_word := by
    have hspec : isWord (decimal range.start ++ ':' :: decimal range.stop) = true :=
      isWord_append (isWord_decimal _) (isWord_append (s := [':']) (by decide) (isWord_decimal _))
    simp only [rangeMatcher, List.forall_mem_cons]
    exact ⟨by decide, hspec, by simp⟩

theorem wellFormed_singlesMatcher {chunk : List Nat} (hne : chunk ≠ []) (hlen : chunk.length ≤ 15)
    (hb : ∀ p ∈ chunk, p ≤ 65535) : (singlesMatcher chunk).WellFormed where
  accepted := by simp [ports_singlesMatcher hne hlen hb]
  args_ne_nil := by unfold singlesMatcher; split <;> simp
  args_word := by
    unfold singlesMatcher
    split
    · simp only [List.forall_mem_cons]
      exact ⟨by decide, isWord_decimal _, by simp⟩
    · have hj : isWord (join [','] (chunk.map decimal)) = true := by
        refine isWord_join (by decide) _ (by simpa using hne) fun part hpart => ?_
        obtain ⟨p, _, rfl⟩ := List.mem_map.1 hpart
        exact isWord_decimal p
      simp only [List.forall_mem_cons]
      exact ⟨by decide, by decide, by decide, hj, by simp⟩

theorem covers_singles {ports : List Nat} {p : Nat} :
    covers (ports.map fun q => (⟨q, q⟩ : PortForwardRange)) p = true ↔ p ∈ ports := by
  simp only [covers_iff, List.mem_map]
  constructor
  · rintro ⟨_, ⟨q, hq, rfl⟩, h₁, h₂⟩
    obtain rfl : q = p := by simp only at h₁ h₂; omega
    exact hq
  · intro hp
    exact ⟨⟨p, p⟩, ⟨p, hp, rfl⟩, Nat.le_refl p, Nat.le_refl p⟩

/-- Some matcher of the list matches the port. -/
def anyMatches (matchers : List PortForwardMatcher) (p : Nat) : Prop :=
  ∃ matcher ∈ matchers, matcher.matchesPort p = true

theorem anyMatches_append {xs ys : List PortForwardMatcher} {p : Nat} :
    anyMatches (xs ++ ys) p ↔ anyMatches xs p ∨ anyMatches ys p := by
  simp only [anyMatches, List.mem_append, or_and_right, exists_or]

theorem singlesMatchers_spec : ∀ (fuel : Nat) (singles : List Nat), singles.length ≤ fuel →
    (∀ p ∈ singles, p ≤ 65535) →
    (∀ m ∈ singlesMatchers fuel singles, m.WellFormed) ∧
    ∀ p, anyMatches (singlesMatchers fuel singles) p ↔ p ∈ singles
  | 0, [], _, _ => by simp [singlesMatchers, anyMatches]
  | _ + 1, [], _, _ => by simp [singlesMatchers, anyMatches]
  | fuel + 1, port :: ports, hlen, hb => by
    obtain ⟨hwf, hm⟩ := singlesMatchers_spec fuel ((port :: ports).drop 15)
      (by simp only [List.length_drop, List.length_cons] at hlen ⊢; omega)
      fun p hp => hb p (List.mem_of_mem_drop hp)
    have hne : (port :: ports).take 15 ≠ [] := by simp
    have hchunk : ∀ p ∈ (port :: ports).take 15, p ≤ 65535 := fun p hp => hb p (List.mem_of_mem_take hp)
    have hle : ((port :: ports).take 15).length ≤ 15 := by simp only [List.length_take]; omega
    refine ⟨List.forall_mem_cons.2 ⟨wellFormed_singlesMatcher hne hle hchunk, hwf⟩, fun p => ?_⟩
    have hhead : (singlesMatcher ((port :: ports).take 15)).matchesPort p = true ↔
        p ∈ (port :: ports).take 15 := by
      rw [PortForwardMatcher.matchesPort, ports_singlesMatcher hne hle hchunk]
      exact covers_singles
    calc anyMatches (singlesMatchers (fuel + 1) (port :: ports)) p
        ↔ p ∈ (port :: ports).take 15 ∨ p ∈ (port :: ports).drop 15 := by
          rw [← hm p, ← hhead]
          simp only [singlesMatchers, anyMatches, List.mem_cons, exists_eq_or_imp]
      _ ↔ p ∈ port :: ports := by
          rw [← List.mem_append, List.take_append_drop]

theorem flushSingles_spec {singles : List Nat} {matchers : List PortForwardMatcher}
    (hb : ∀ p ∈ singles, p ≤ 65535) (hm : ∀ m ∈ matchers, m.WellFormed) :
    (∀ m ∈ flushSingles singles matchers, m.WellFormed) ∧
    ∀ p, anyMatches (flushSingles singles matchers) p ↔ anyMatches matchers p ∨ p ∈ singles := by
  obtain ⟨hwf, hp⟩ := singlesMatchers_spec singles.length singles (Nat.le_refl _) hb
  refine ⟨fun m h => ?_, fun p => ?_⟩
  · rcases List.mem_append.1 h with h | h
    · exact hm m h
    · exact hwf m h
  · rw [flushSingles, anyMatches_append, hp]

/-- The regrouping loop: what is emitted plus what waits in `singles` is what was read. -/
theorem foldl_addMatcherRange : ∀ (ranges : List PortForwardRange) (acc : List PortForwardMatcher × List Nat),
    Bounded ranges → (∀ p ∈ acc.2, p ≤ 65535) → (∀ m ∈ acc.1, m.WellFormed) →
    let out := ranges.foldl addMatcherRange acc
    (∀ p ∈ out.2, p ≤ 65535) ∧ (∀ m ∈ out.1, m.WellFormed) ∧
      ∀ p, (anyMatches out.1 p ∨ p ∈ out.2) ↔ (anyMatches acc.1 p ∨ p ∈ acc.2) ∨ covers ranges p = true
  | [], acc, _, hs, hm => by simpa using ⟨hs, hm⟩
  | range :: ranges, acc, hb, hs, hm => by
    have hr := hb range List.mem_cons_self
    have hrest : Bounded ranges := fun r hr => hb r (List.mem_cons_of_mem _ hr)
    simp only [List.foldl_cons, addMatcherRange]
    by_cases heq : range.start = range.stop
    · rw [if_pos heq]
      obtain ⟨h₁, h₂, h₃⟩ := foldl_addMatcherRange ranges (acc.1, acc.2 ++ [range.start]) hrest
        (by
          intro p hp
          rcases List.mem_append.1 hp with hp | hp
          · exact hs p hp
          · simp only [List.mem_singleton] at hp
            omega)
        hm
      refine ⟨h₁, h₂, fun p => ?_⟩
      have hpoint : p = range.start ↔ range.start ≤ p ∧ p ≤ range.stop := by omega
      rw [h₃ p, covers_cons, List.mem_append, List.mem_singleton, hpoint]
      tauto
    · rw [if_neg heq]
      obtain ⟨hwf, hp⟩ := flushSingles_spec hs hm
      obtain ⟨h₁, h₂, h₃⟩ := foldl_addMatcherRange ranges (flushSingles acc.2 acc.1 ++ [rangeMatcher range], [])
        hrest (by simp)
        (by
          intro m h
          rcases List.mem_append.1 h with h | h
          · exact hwf m h
          · rw [List.mem_singleton.1 h]
            exact wellFormed_rangeMatcher hr)
      refine ⟨h₁, h₂, fun p => ?_⟩
      have hone : anyMatches [rangeMatcher range] p ↔ range.start ≤ p ∧ p ≤ range.stop := by
        simp [anyMatches, PortForwardMatcher.matchesPort, ports_rangeMatcher hr]
      rw [h₃ p, covers_cons, anyMatches_append, hp p, hone]
      simp only [List.not_mem_nil, or_false]
      tauto

/-- **The matchers made from ranges** are accepted by iptables and match exactly the ranges' ports. -/
theorem portForwardMatchersFromRanges_spec {ranges : List PortForwardRange} (hb : Bounded ranges) :
    (∀ m ∈ portForwardMatchersFromRanges ranges, m.WellFormed) ∧
    ∀ p, anyMatches (portForwardMatchersFromRanges ranges) p ↔ covers ranges p = true := by
  obtain ⟨h₁, h₂, h₃⟩ := foldl_addMatcherRange ranges ([], []) hb (by simp) (by simp)
  obtain ⟨hwf, hp⟩ := flushSingles_spec h₁ h₂
  refine ⟨hwf, fun p => ?_⟩
  rw [portForwardMatchersFromRanges, hp p, h₃ p]
  simp [anyMatches]

end KeliNode
