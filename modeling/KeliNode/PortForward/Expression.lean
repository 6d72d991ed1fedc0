import KeliNode.PortForward.Ranges
import KeliNode.Lib.Except

/-!
# The grammar of port expressions (`port_forward.rs`)

| here | there |
|---|---|
| `Numeral` | `str::parse::<u32>`, as `parse_port_number` uses it (`port_forward.rs:1606`) |
| `PortToken`, `PortList` | what `parse_port_forward_matchers_and_ranges_except` takes (`port_forward.rs:1485`) |
| `addRangeChecked`, `parseChecked` | `add_range` and the parser, where a `u16` operation that leaves its range is a panic |

The parser takes exactly the expressions of the grammar (`portExpression_eq_ok_iff`).  Its loop keeps in
`matchers` and `singles` together what it keeps in `ranges` (`Consistent`), so the matchers and the ranges that it
returns denote the same ports.
-/

namespace KeliNode

open Lib

/-! ## The grammar -/

/-- Decimal digits behind an optional plus sign. -/
def Numeral (token : Text) (n : Nat) : Prop :=
  ∃ digits, (token = digits ∨ token = '+' :: digits) ∧ digits ≠ [] ∧ (∀ c ∈ digits, c.isDigit = true) ∧
    Nat.ofDigitChars 10 digits 0 = n

def PortText (token : Text) (port : Nat) : Prop := Numeral token port ∧ 1 ≤ port ∧ port ≤ 65535

/-- A port, or two ports in order with a dash or a colon between. -/
inductive PortToken : Text → PortForwardRange → Prop
  | port {token : Text} {port : Nat} (h : PortText token port) : PortToken token ⟨port, port⟩
  | range {first last : Text} {start stop : Nat} {separator : Char} (hsep : separator = '-' ∨ separator = ':')
      (hfirst : PortText first start) (hlast : PortText last stop) (hle : start ≤ stop) :
      PortToken (first ++ separator :: last) ⟨start, stop⟩

/-- Tokens with commas between, at least one. -/
def PortList (expression : Text) (ranges : List PortForwardRange) : Prop :=
  ∃ tokens, tokens ≠ [] ∧ expression = join "," tokens ∧ List.Forall₂ PortToken tokens ranges

section

variable {token : Text} {n port : Nat} {range : PortForwardRange}

theorem not_mem_numeral (h : Numeral token n) {c : Char} (hc : c.isDigit = false) (hplus : c ≠ '+') : c ∉ token := by
  obtain ⟨digits, htoken, _, hdigits, _⟩ := h
  have hfree : c ∉ digits := by
    intro hmem
    rw [hdigits c hmem] at hc
    cases hc
  rcases htoken with rfl | rfl
  · exact hfree
  · rw [List.mem_cons, not_or]
    exact ⟨hplus, hfree⟩

theorem parseUnsigned_eq_some_iff {bound : Nat} :
    parseUnsigned bound token = some n ↔ Numeral token n ∧ n < bound := by
  unfold parseUnsigned
  simp only
  constructor
  · have hread : token = (if token.head? = some '+' then token.tail else token) ∨
        token = '+' :: (if token.head? = some '+' then token.tail else token) := by
      by_cases hplus : token.head? = some '+'
      · rw [if_pos hplus]
        exact .inr (List.head?_eq_some_iff.1 hplus |>.elim fun rest h => by rw [h, List.tail_cons])
      · rw [if_neg hplus]
        exact .inl rfl
    generalize (if token.head? = some '+' then token.tail else token) = digits at hread
    intro h
    by_cases haccepted : digits ≠ [] ∧ digits.all Char.isDigit = true ∧ Nat.ofDigitChars 10 digits 0 < bound
    · rw [if_pos haccepted] at h
      rw [← Option.some.inj h]
      exact ⟨⟨digits, hread, haccepted.1, List.all_eq_true.1 haccepted.2.1, rfl⟩, haccepted.2.2⟩
    · rw [if_neg haccepted] at h
      cases h
  · rintro ⟨⟨digits, htoken, hne, hdigits, hvalue⟩, hlt⟩
    have hread : (if token.head? = some '+' then token.tail else token) = digits := by
      rcases htoken with rfl | rfl
      · have hhead : token.head? ≠ some '+' := by
          intro hplus
          exact absurd (hdigits _ (List.mem_of_mem_head? hplus)) (by decide)
        rw [if_neg hhead]
      · rfl
    rw [hread, if_pos ⟨hne, List.all_eq_true.2 hdigits, hvalue ▸ hlt⟩, hvalue]

theorem parsePortNumber_eq_ok_iff : parsePortNumber token = .ok port ↔ PortText token port := by
  unfold parsePortNumber PortText
  constructor
  · intro h
    split at h
    · cases h
    · split at h
      · cases h
      · rename_i value hvalue
        split at h
        · cases h
        · rename_i hrange
          obtain rfl := Except.ok.inj h
          exact ⟨(parseUnsigned_eq_some_iff.1 hvalue).1, by omega, by omega⟩
  · rintro ⟨hnumeral, hpos, hle⟩
    have hne : token.isEmpty = false := by
      obtain ⟨digits, htoken, hdigits, _⟩ := hnumeral
      rcases htoken with rfl | rfl
      · exact List.isEmpty_eq_false_iff.2 hdigits
      · rfl
    have hvalue : parseUnsigned (2 ^ 32) token = some port := parseUnsigned_eq_some_iff.2 ⟨hnumeral, by omega⟩
    have hrange : ¬(port = 0 ∨ port > 65535) := by omega
    simp only [hne, hvalue, hrange, if_false, Bool.false_eq_true]

theorem separators_not_mem (h : PortText token port) : '-' ∉ token ∧ ':' ∉ token ∧ ',' ∉ token :=
  ⟨not_mem_numeral h.1 (by decide) (by decide), not_mem_numeral h.1 (by decide) (by decide),
    not_mem_numeral h.1 (by decide) (by decide)⟩

theorem eq_of_splitOn_pair {separator : Char} {first last : Text} (h : splitOn separator token = [first, last]) :
    token = first ++ separator :: last := by
  have hjoin : ([separator] : Text).intercalate (List.splitOn separator token) = token := List.intercalate_splitOn _
  rw [splitOn] at h
  rw [h] at hjoin
  rw [← hjoin]
  simp

theorem parsePortRange_eq_ok {start stop : Nat} (h : parsePortRange token = .ok (start, stop)) :
    ∃ first last separator, (separator = '-' ∨ separator = ':') ∧ token = first ++ separator :: last ∧
      PortText first start ∧ PortText last stop ∧ start ≤ stop := by
  unfold parsePortRange at h
  simp only at h
  split at h
  · rename_i first last hsplit
    obtain ⟨a, ha, h⟩ := bind_eq_ok.1 h
    obtain ⟨b, hb, h⟩ := bind_eq_ok.1 h
    split at h
    · cases h
    · rename_i hle
      obtain ⟨rfl, rfl⟩ := Prod.mk.inj (Except.ok.inj h)
      refine ⟨first, last, if token.contains '-' then '-' else ':', ?_, ?_, parsePortNumber_eq_ok_iff.1 ha,
        parsePortNumber_eq_ok_iff.1 hb, by omega⟩
      · split
        · exact .inl rfl
        · exact .inr rfl
      · exact eq_of_splitOn_pair hsplit
  · cases h

theorem parsePortRange_of_texts {first last : Text} {start stop : Nat} {separator : Char}
    (hsep : separator = '-' ∨ separator = ':') (hfirst : PortText first start) (hlast : PortText last stop)
    (hle : start ≤ stop) : parsePortRange (first ++ separator :: last) = .ok (start, stop) := by
  obtain ⟨hdash₁, hcolon₁, _⟩ := separators_not_mem hfirst
  obtain ⟨hdash₂, hcolon₂, _⟩ := separators_not_mem hlast
  have hchosen : (if (first ++ separator :: last).contains '-' then '-' else ':') = separator := by
    rcases hsep with rfl | rfl
    · simp
    · simp [hdash₁, hdash₂]
  have hfree : ∀ part ∈ [first, last], separator ∉ part := by
    rcases hsep with rfl | rfl
    · simp [hdash₁, hdash₂]
    · simp [hcolon₁, hcolon₂]
  have hsplit : splitOn separator (first ++ separator :: last) = [first, last] := by
    have h := splitOn_join separator [first, last] (by simp) hfree
    simpa [join, List.intercalate] using h
  have hnot : ¬start > stop := by omega
  unfold parsePortRange
  simp only [hchosen, hsplit, parsePortNumber_eq_ok_iff.2 hfirst, parsePortNumber_eq_ok_iff.2 hlast]
  exact if_neg hnot

/-- **One token.** -/
theorem tokenRange_eq_ok_iff : tokenRange token = .ok range ↔ PortToken token range := by
  unfold tokenRange
  constructor
  · intro h
    split at h
    · cases h
    · split at h
      · obtain ⟨⟨start, stop⟩, hbounds, rfl⟩ := map_eq_ok.1 h
        obtain ⟨first, last, separator, hsep, rfl, hfirst, hlast, hle⟩ := parsePortRange_eq_ok hbounds
        exact .range hsep hfirst hlast hle
      · obtain ⟨port, hport, rfl⟩ := map_eq_ok.1 h
        exact .port (parsePortNumber_eq_ok_iff.1 hport)
  · rintro (hport | ⟨hsep, hfirst, hlast, hle⟩)
    · obtain ⟨hdash, hcolon, _⟩ := separators_not_mem hport
      have hne : token.isEmpty = false := by
        obtain ⟨digits, htoken, hdigits, _⟩ := hport.1
        rcases htoken with rfl | rfl
        · exact List.isEmpty_eq_false_iff.2 hdigits
        · rfl
      have hplain : (token.contains '-' || token.contains ':') = false := by
        simp [hdash, hcolon]
      simp only [hne, hplain, Bool.false_eq_true, if_false, parsePortNumber_eq_ok_iff.2 hport]
      rfl
    · rename_i first last start stop separator
      have hne : (first ++ separator :: last).isEmpty = false := by simp
      have hranged : ((first ++ separator :: last).contains '-' || (first ++ separator :: last).contains ':') = true := by
        rcases hsep with rfl | rfl <;> simp
      simp only [hne, hranged, Bool.false_eq_true, if_false, if_true, parsePortRange_of_texts hsep hfirst hlast hle]
      rfl

theorem comma_not_mem_of_portToken (h : PortToken token range) : ',' ∉ token := by
  cases h with
  | port hport => exact (separators_not_mem hport).2.2
  | @range first last start stop separator hsep hfirst hlast hle =>
    rw [List.mem_append, List.mem_cons, not_or, not_or]
    refine ⟨(separators_not_mem hfirst).2.2, ?_, (separators_not_mem hlast).2.2⟩
    rcases hsep with rfl | rfl <;> decide

theorem ne_nil_of_portToken (h : PortToken token range) : token ≠ [] := by
  cases h with
  | port hport =>
    obtain ⟨digits, htoken, hdigits, _⟩ := hport.1
    rcases htoken with rfl | rfl
    · exact hdigits
    · exact List.cons_ne_nil _ _
  | range => simp

end

/-- **The parser takes the grammar.** -/
theorem portExpression_eq_ok_iff {raw : Text} {xs : List PortForwardRange} :
    portExpression raw = .ok xs ↔ PortList (cleanPortExpression raw) xs := by
  unfold portExpression
  constructor
  · intro h
    split at h
    · cases h
    · have hjoin : join "," (splitOn ',' (cleanPortExpression raw)) = cleanPortExpression raw :=
        List.intercalate_splitOn _
      exact ⟨_, List.splitOn_ne_nil _ _, hjoin.symm, (forall₂_of_mapM_ok h).imp fun _ _ => tokenRange_eq_ok_iff.1⟩
  · rintro ⟨tokens, hne, hjoin, htokens⟩
    have hfree : ∀ token ∈ tokens, ',' ∉ token ∧ token ≠ [] := by
      intro token htoken
      obtain ⟨range, _, hrange⟩ := exists_right_of_forall₂ htokens htoken
      exact ⟨comma_not_mem_of_portToken hrange, ne_nil_of_portToken hrange⟩
    have hsplit : splitOn ',' (cleanPortExpression raw) = tokens := by
      rw [hjoin]
      exact splitOn_join ',' tokens hne fun token htoken => (hfree token htoken).1
    have hnonempty : (cleanPortExpression raw).isEmpty = false := by
      rw [List.isEmpty_eq_false_iff]
      intro hnil
      rw [hnil] at hsplit
      have hmem : [] ∈ tokens := by
        rw [← hsplit]
        exact List.mem_singleton_self []
      exact (hfree [] hmem).2 rfl
    rw [hnonempty, hsplit, if_neg Bool.false_ne_true]
    exact mapM_ok_of_forall₂ (htokens.imp fun _ _ => tokenRange_eq_ok_iff.2)

/-! ## The loop -/

/-- The three forms of a matcher: a port, a range, a list of 2 to 15 ports. -/
inductive MatcherForm : PortForwardMatcher → Prop
  | port (port : Nat) : MatcherForm { args := ["--dport", decimal port], singlePort := some port }
  | range (range : PortForwardRange) :
      MatcherForm { args := ["--dport", decimal range.start ++ ':' :: decimal range.stop], singlePort := none }
  | ports (ports : List Nat) (two : 2 ≤ ports.length) (fifteen : ports.length ≤ 15) :
      MatcherForm { args := ["-m", "multiport", "--dports", join "," (ports.map decimal)], singlePort := none }

theorem matcherForm_singlesMatcher {chunk : List Nat} (hne : chunk ≠ []) (hle : chunk.length ≤ 15) :
    MatcherForm (singlesMatcher chunk) := by
  unfold singlesMatcher
  split
  · exact .port _
  · rename_i hmany
    refine .ports chunk ?_ hle
    cases chunk with
    | nil => exact absurd rfl hne
    | cons port rest =>
      cases rest with
      | nil => exact absurd rfl (hmany port)
      | cons next rest => simp

theorem matcherForm_singlesMatchers : ∀ (fuel : Nat) (singles : List Nat),
    ∀ m ∈ singlesMatchers fuel singles, MatcherForm m
  | 0, _ => by simp [singlesMatchers]
  | _ + 1, [] => by simp [singlesMatchers]
  | fuel + 1, port :: ports => by
    rw [singlesMatchers, List.forall_mem_cons]
    refine ⟨matcherForm_singlesMatcher (by simp) ?_, matcherForm_singlesMatchers fuel _⟩
    rw [List.length_take]
    omega

/-- What is in `matchers` and `singles` is what is in `ranges`. -/
structure Consistent (st : ParseState) : Prop where
  bounded : Bounded st.ranges
  singles_le : ∀ port ∈ st.singles, port ≤ 65535
  wellFormed : ∀ m ∈ st.matchers, m.WellFormed
  form : ∀ m ∈ st.matchers, MatcherForm m
  same : ∀ p, (anyMatches st.matchers p ∨ p ∈ st.singles) ↔ covers st.ranges p = true

theorem consistent_empty : Consistent {} := by
  refine ⟨?_, ?_, ?_, ?_, ?_⟩ <;> simp [Bounded, anyMatches]

theorem Consistent.addSingle {st : ParseState} (h : Consistent st) {port : Nat} (hport : port ≤ 65535)
    (excludedPort : Nat) : Consistent (addSingle port excludedPort st) := by
  unfold KeliNode.addSingle
  split
  · exact h
  · refine ⟨h.bounded.append (by simpa [Bounded] using hport), ?_, h.wellFormed, h.form, fun p => ?_⟩
    · intro q hq
      rcases List.mem_append.1 hq with hq | hq
      · exact h.singles_le q hq
      · rw [List.mem_singleton.1 hq]
        exact hport
    · have hpoint : p = port ↔ port ≤ p ∧ p ≤ port := by omega
      rw [covers_append, ← h.same p, List.mem_append, List.mem_singleton, covers_cons, covers_nil, hpoint, or_assoc]
      simp

theorem Consistent.flush {st : ParseState} (h : Consistent st) :
    Consistent { st with singles := [], matchers := flushSingles st.singles st.matchers } := by
  obtain ⟨hwell, hmatch⟩ := flushSingles_spec h.singles_le h.wellFormed
  refine ⟨h.bounded, by simp, hwell, ?_, fun p => ?_⟩
  · intro m hm
    rcases List.mem_append.1 hm with hm | hm
    · exact h.form m hm
    · exact matcherForm_singlesMatchers _ _ m hm
  · rw [hmatch p, ← h.same p]
    simp

theorem Consistent.addRange {st : ParseState} (h : Consistent st) {start stop : Nat}
    (hbounds : start ≤ stop ∧ stop ≤ 65535) (excludedPort : Nat) : Consistent (addRange start stop excludedPort st) := by
  have hpieces : Bounded (rangePieces start stop excludedPort) := bounded_rangePieces hbounds
  refine ⟨h.bounded.append hpieces, h.singles_le, ?_, ?_, fun p => ?_⟩
  · intro m hm
    rcases List.mem_append.1 hm with hm | hm
    · exact h.wellFormed m hm
    · obtain ⟨piece, hpiece, rfl⟩ := List.mem_map.1 hm
      exact wellFormed_rangeMatcher (hpieces piece hpiece)
  · intro m hm
    rcases List.mem_append.1 hm with hm | hm
    · exact h.form m hm
    · obtain ⟨piece, _, rfl⟩ := List.mem_map.1 hm
      exact .range piece
  · have hmap : ∀ pieces : List PortForwardRange, Bounded pieces →
        (anyMatches (pieces.map rangeMatcher) p ↔ covers pieces p = true) := by
      intro pieces hbounded
      have hone : ∀ piece ∈ pieces, (rangeMatcher piece).matchesPort p = true ↔ piece.start ≤ p ∧ p ≤ piece.stop := by
        intro piece hpiece
        simp [PortForwardMatcher.matchesPort, ports_rangeMatcher (hbounded piece hpiece)]
      rw [covers_iff]
      constructor
      · rintro ⟨m, hm, hmatch⟩
        obtain ⟨piece, hpiece, rfl⟩ := List.mem_map.1 hm
        exact ⟨piece, hpiece, (hone piece hpiece).1 hmatch⟩
      · rintro ⟨piece, hpiece, hp⟩
        exact ⟨_, List.mem_map_of_mem hpiece, (hone piece hpiece).2 hp⟩
    simp only [KeliNode.addRange, anyMatches_append, covers_append, hmap _ hpieces, ← h.same p]
    tauto

/-- **Step lemma**: a token keeps the state consistent. -/
theorem consistent_addToken {excludedPort : Nat} {st st' : ParseState} {token : Text} (h : Consistent st)
    (hstep : addToken excludedPort st token = .ok st') : Consistent st' := by
  unfold addToken at hstep
  split at hstep
  · cases hstep
  · split at hstep
    · obtain ⟨⟨start, stop⟩, hbounds, hstep⟩ := bind_eq_ok.1 hstep
      obtain ⟨_, hle, hstop⟩ := parsePortRange_bounds hbounds
      simp only at hstep
      split at hstep
      · rw [← Except.ok.inj hstep]
        exact h.addSingle (hle.trans hstop) excludedPort
      · rw [← Except.ok.inj hstep]
        exact h.flush.addRange ⟨hle, hstop⟩ excludedPort
    · obtain ⟨port, hport, hstep⟩ := bind_eq_ok.1 hstep
      rw [← Except.ok.inj hstep]
      exact h.addSingle (parsePortNumber_bounds hport).2 excludedPort

/-- **What the parser returns**: matchers of the three forms and ranges in order, of the same ports. -/
theorem parse_consistent {raw : Text} {excludedPort : Nat} {matchers : List PortForwardMatcher}
    {ranges : List PortForwardRange}
    (h : parsePortForwardMatchersAndRangesExcept raw excludedPort = .ok (matchers, ranges)) :
    Bounded ranges ∧ (∀ m ∈ matchers, MatcherForm m) ∧ ∀ p, anyMatches matchers p ↔ covers ranges p = true := by
  unfold parsePortForwardMatchersAndRangesExcept at h
  simp only at h
  split at h
  · cases h
  · obtain ⟨st, hst, h⟩ := bind_eq_ok.1 h
    obtain ⟨rfl, rfl⟩ := Prod.mk.inj (Except.ok.inj h)
    have hconsistent : Consistent st :=
      foldlM_invariant Consistent (fun st hst token _ st' => consistent_addToken hst) consistent_empty hst
    have hflushed := hconsistent.flush
    refine ⟨hflushed.bounded, hflushed.form, fun p => ?_⟩
    rw [← hflushed.same p]
    simp

/-! ## Arithmetic -/

/-- `a - b` on `u16`, unless it panics. -/
def checkedSub16 (a b : Nat) : Option Nat := if b ≤ a then some (a - b) else none

/-- `a + b` on `u16`, unless it panics. -/
def checkedAdd16 (a b : Nat) : Option Nat := if a + b ≤ 65535 then some (a + b) else none

/-- `rangePieces` with the operations of `add_range`. -/
def rangePiecesChecked (start stop excludedPort : Nat) : Option (List PortForwardRange) :=
  if 0 < excludedPort ∧ start ≤ excludedPort ∧ excludedPort ≤ stop then do
    let below ←
      if start < excludedPort then (checkedSub16 excludedPort 1).map fun last => [⟨start, last⟩] else some []
    let above ←
      if excludedPort < stop then (checkedAdd16 excludedPort 1).map fun first => [⟨first, stop⟩] else some []
    some (below ++ above)
  else some [⟨start, stop⟩]

def addRangeChecked (start stop excludedPort : Nat) (st : ParseState) : Option ParseState :=
  (rangePiecesChecked start stop excludedPort).map fun pieces =>
    { st with ranges := st.ranges ++ pieces, matchers := st.matchers ++ pieces.map rangeMatcher }

def addTokenChecked (excludedPort : Nat) (st : ParseState) (token : Text) : Option (Except Text ParseState) :=
  if token.isEmpty then some (.error "empty token")
  else if token.contains '-' || token.contains ':' then
    match parsePortRange token with
    | .error error => some (.error error)
    | .ok (start, stop) =>
      if start = stop then some (.ok (addSingle start excludedPort st))
      else (addRangeChecked start stop excludedPort
        { st with singles := [], matchers := flushSingles st.singles st.matchers }).map .ok
  else some ((parsePortNumber token).map fun port => addSingle port excludedPort st)

def addTokensChecked (excludedPort : Nat) : List Text → ParseState → Option (Except Text ParseState)
  | [], st => some (.ok st)
  | token :: tokens, st =>
    match addTokenChecked excludedPort st token with
    | none => none
    | some (.error error) => some (.error error)
    | some (.ok st) => addTokensChecked excludedPort tokens st

/-- The parser; `none` is a panic. -/
def parseChecked (raw : Text) (excludedPort : Nat) :
    Option (Except Text (List PortForwardMatcher × List PortForwardRange)) :=
  let cleaned := cleanPortExpression raw
  if cleaned.isEmpty then some (.error "empty port")
  else (addTokensChecked excludedPort (splitOn ',' cleaned) {}).map fun outcome =>
    outcome.map fun st => (flushSingles st.singles st.matchers, st.ranges)

theorem rangePiecesChecked_eq {start stop : Nat} (hstop : stop ≤ 65535) (excludedPort : Nat) :
    rangePiecesChecked start stop excludedPort = some (rangePieces start stop excludedPort) := by
  unfold rangePiecesChecked rangePieces
  by_cases hcut : 0 < excludedPort ∧ start ≤ excludedPort ∧ excludedPort ≤ stop
  · rw [if_pos hcut, if_pos hcut]
    have hsub : checkedSub16 excludedPort 1 = some (excludedPort - 1) := if_pos (by omega)
    have hadd : excludedPort < stop → checkedAdd16 excludedPort 1 = some (excludedPort + 1) :=
      fun h => if_pos (by omega)
    by_cases hbelow : start < excludedPort <;> by_cases habove : excludedPort < stop <;>
      simp [hbelow, habove, hsub, hadd]
  · rw [if_neg hcut, if_neg hcut]

theorem addTokenChecked_eq (excludedPort : Nat) (st : ParseState) (token : Text) :
    addTokenChecked excludedPort st token = some (addToken excludedPort st token) := by
  unfold addTokenChecked addToken
  split
  · rfl
  · split
    · cases hbounds : parsePortRange token with
      | error error => rfl
      | ok bounds =>
        obtain ⟨start, stop⟩ := bounds
        obtain ⟨_, _, hstop⟩ := parsePortRange_bounds hbounds
        by_cases hsingle : start = stop
        · simp only [if_pos hsingle]
          exact congrArg some (if_pos hsingle).symm
        · simp only [hsingle, if_false, addRangeChecked, rangePiecesChecked_eq hstop]
          exact congrArg some (if_neg hsingle).symm
    · cases parsePortNumber token <;> rfl

/-- **No operation leaves the range of its type.** -/
theorem parseChecked_eq (raw : Text) (excludedPort : Nat) :
    parseChecked raw excludedPort = some (parsePortForwardMatchersAndRangesExcept raw excludedPort) := by
  have htokens : ∀ (tokens : List Text) (st : ParseState),
      addTokensChecked excludedPort tokens st = some (tokens.foldlM (addToken excludedPort) st) := by
    intro tokens
    induction tokens with
    | nil => exact fun st => rfl
    | cons token tokens ih =>
      intro st
      rw [addTokensChecked, addTokenChecked_eq, List.foldlM_cons]
      cases addToken excludedPort st token with
      | error error => rfl
      | ok st' => exact ih st'
  unfold parseChecked parsePortForwardMatchersAndRangesExcept
  simp only
  split
  · rfl
  · rw [htokens]
    cases (splitOn ',' (cleanPortExpression raw)).foldlM (addToken excludedPort) {} <;> rfl

/-- **Port expressions denote what is parsed**: the parser takes exactly the grammar; its matchers and its ranges
denote the expression's ports without the excluded one; nothing overflows; and the matchers made from any ranges
denote the ports of these. -/
theorem parse_denotes (raw : Text) (excludedPort : Nat) :
    ((∃ result, parsePortForwardMatchersAndRangesExcept raw excludedPort = .ok result) ↔
      ∃ xs, PortList (cleanPortExpression raw) xs) ∧
    (∀ matchers ranges xs, parsePortForwardMatchersAndRangesExcept raw excludedPort = .ok (matchers, ranges) →
      PortList (cleanPortExpression raw) xs →
      (∀ p, anyMatches matchers p ↔ covers xs p = true ∧ p ≠ excludedPort) ∧
      (∀ p, covers ranges p = true ↔ covers xs p = true ∧ p ≠ excludedPort) ∧
      (∀ range ∈ ranges, range.start ≤ range.stop) ∧ ∀ m ∈ matchers, MatcherForm m) ∧
    parseChecked raw excludedPort = some (parsePortForwardMatchersAndRangesExcept raw excludedPort) ∧
    ∀ ranges, Bounded ranges →
      ∀ p, anyMatches (portForwardMatchersFromRanges ranges) p ↔ covers ranges p = true := by
  refine ⟨⟨?_, ?_⟩, ?_, parseChecked_eq raw excludedPort, fun ranges h => (portForwardMatchersFromRanges_spec h).2⟩
  · rintro ⟨result, hresult⟩
    cases hexpression : portExpression raw with
    | error e =>
      rw [parse_error hexpression] at hresult
      cases hresult
    | ok xs => exact ⟨xs, portExpression_eq_ok_iff.1 hexpression⟩
  · rintro ⟨xs, hlist⟩
    obtain ⟨matchers, ranges, hparse, _⟩ := parse_ok excludedPort (portExpression_eq_ok_iff.2 hlist)
    exact ⟨_, hparse⟩
  · intro matchers ranges xs hparse hlist
    obtain ⟨matchers', ranges', hparse', _, hcovers⟩ := parse_ok excludedPort (portExpression_eq_ok_iff.2 hlist)
    obtain ⟨rfl, rfl⟩ := Prod.mk.inj (Except.ok.inj (hparse'.symm.trans hparse))
    obtain ⟨hbounded, hform, hmatch⟩ := parse_consistent hparse
    exact ⟨fun p => (hmatch p).trans (hcovers p), hcovers, fun range hrange => (hbounded range hrange).1, hform⟩

/-- Two ports and a range with the excluded port inside. -/
def mixedExpression : Text := " 80,+0443, 1000-1003"

theorem parse_denotes_mixed :
    PortList (cleanPortExpression mixedExpression) [⟨80, 80⟩, ⟨443, 443⟩, ⟨1000, 1003⟩] ∧
    ∃ matchers ranges, parsePortForwardMatchersAndRangesExcept mixedExpression 1001 = .ok (matchers, ranges) ∧
      anyMatches matchers 443 ∧ anyMatches matchers 1000 ∧ ¬anyMatches matchers 1001 := by
  have hlist : PortList (cleanPortExpression mixedExpression) [⟨80, 80⟩, ⟨443, 443⟩, ⟨1000, 1003⟩] :=
    portExpression_eq_ok_iff.1 (by decide +kernel)
  obtain ⟨haccept, hdenote, _⟩ := parse_denotes mixedExpression 1001
  obtain ⟨⟨matchers, ranges⟩, hparse⟩ := haccept.2 ⟨_, hlist⟩
  have hmatch := (hdenote matchers ranges _ hparse hlist).1
  refine ⟨hlist, matchers, ranges, hparse, (hmatch 443).2 (by decide), (hmatch 1000).2 (by decide), fun h => ?_⟩
  exact ((hmatch 1001).1 h).2 rfl

end KeliNode
