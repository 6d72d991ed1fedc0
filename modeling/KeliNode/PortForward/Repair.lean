import KeliNode.PortForward.Listing

/-!
# Comparing and reconciling one tool's tables

One tool's tables: inspecting reports a difference exactly when there is one (`clean_iff`), and the
reconcile commands remove exactly the rules the agent recognises and add the expected ones
(`runAll_reconcile`), after which there is no difference (`reconciled_match`) and every other rule stands
where it stood.
-/

namespace KeliNode

open Lib

/-! ## Comparing -/

theorem mem_specsByKey {specs : List Text} {key : Text} :
    key ∈ specsByKey specs ↔ ∃ spec ∈ specs, portForwardFieldsKey (parseIptablesSpec spec) = key := by
  simp [specsByKey, Std.ExtTreeMap.mem_ofList]

theorem specsOnlyIn_eq_nil {left right : List Text} :
    specsOnlyIn (specsByKey left) (specsByKey right) = [] ↔
      ∀ spec ∈ left, ∃ spec' ∈ right,
        portForwardFieldsKey (parseIptablesSpec spec') = portForwardFieldsKey (parseIptablesSpec spec) := by
  have hkeys : specsOnlyIn (specsByKey left) (specsByKey right) = [] ↔
      ∀ key ∈ specsByKey left, key ∈ specsByKey right := by
    unfold specsOnlyIn
    rw [List.map_eq_nil_iff, List.filter_eq_nil_iff]
    constructor
    · intro h key hkey
      have hentry := Std.ExtTreeMap.mem_toList_iff_getElem?_eq_some.2 (Std.ExtTreeMap.getElem?_eq_some_getElem hkey)
      simpa using h _ hentry
    · rintro h ⟨key, spec⟩ hentry
      have hmem : key ∈ specsByKey left := by
        rw [Std.ExtTreeMap.mem_iff_isSome_getElem?, Std.ExtTreeMap.mem_toList_iff_getElem?_eq_some.1 hentry]
        rfl
      simpa using h key hmem
  rw [hkeys]
  simp only [mem_specsByKey]
  constructor
  · intro h spec hs
    exact h _ ⟨spec, hs, rfl⟩
  · rintro h key ⟨spec, hs, rfl⟩
    exact h spec hs

/-- The tokens a row's key is made of. -/
def rowTokens (chain : Text) (rule : FwRule) : List Text :=
  dropImplied ((("-A" : Text) :: chain :: rule).flatMap parseIptablesSpec)

theorem rowTokens_plain {chain : Text} (hchain : ChainName chain) {rule : FwRule} (hok : RuleOk rule) :
    (∀ field ∈ (("-A" : Text) :: chain :: rule), ∀ c ∈ field, isPlain c = true) ∧
    ∀ token ∈ (("-A" : Text) :: chain :: rule).flatMap parseIptablesSpec, ∀ c ∈ token, isPlain c = true := by
  have hplain : ∀ field ∈ (("-A" : Text) :: chain :: rule), ∀ c ∈ field, isPlain c = true := by
    simp only [List.forall_mem_cons]
    exact ⟨by simp [isPlain], fun c hc => ((isWord_iff.1 hchain.word).2 c hc).1, plain_of_wellFormed rule false hok.wellFormed⟩
  refine ⟨hplain, fun token ht c hc => ?_⟩
  obtain ⟨field, hf, ht⟩ := List.mem_flatMap.1 ht
  exact hplain field hf c (mem_of_mem_parse ht c hc)

theorem rowText_key {chain : Text} (hchain : ChainName chain) {rule : FwRule} (hok : RuleOk rule) :
    portForwardFieldsKey (parseIptablesSpec (rowText chain rule)) = join [Char.ofNat 0] (rowTokens chain rule) := by
  obtain ⟨hplain, htokens⟩ := rowTokens_plain hchain hok
  rw [rowText, parseIptablesSpec_join _ fun field hf => not_isQuote_of_plain (hplain field hf), portForwardFieldsKey,
    normalizePortForwardSpecFields, normalizeFrom_of_plain _ none htokens, rowTokens]

theorem mem_dropImplied : ∀ {fields : List Text} {field : Text}, field ∈ dropImplied fields → field ∈ fields
  | [], _, h => h
  | [_], _, h => h
  | a :: b :: rest, field, h => by
    rw [dropImplied] at h
    split at h
    · exact List.mem_cons_of_mem _ (List.mem_cons_of_mem _ (mem_dropImplied h))
    · rcases List.mem_cons.1 h with rfl | h
      · exact List.mem_cons_self
      · exact List.mem_cons_of_mem _ (mem_dropImplied h)

theorem rowTokens_cons {chain : Text} (hchain : ChainName chain) (rule : FwRule) :
    rowTokens chain rule = ("-A" : Text) :: chain :: dropImplied (rule.flatMap parseIptablesSpec) := by
  rw [rowTokens, List.flatMap_cons, List.flatMap_cons, parseIptablesSpec_word (by decide),
    parseIptablesSpec_word hchain.word, List.singleton_append, List.singleton_append, dropImplied_cons (by decide),
    dropImplied_cons hchain.not_m]

theorem rowTokens_expected {chain : Text} (hchain : ChainName chain) {expected : FwRule}
    (h : ExpectedRule expected) : rowTokens chain expected = ("-A" : Text) :: chain :: expected := by
  rw [rowTokens_cons hchain, flatMap_parse_words expected h.words, h.canonical]

/-- Rows of the agent have the key of an expected rule only when they are that rule. -/
theorem rowText_key_inj {comment chain chain' : Text} (hcomment : isWord comment = true) (hchain : ChainName chain)
    (hchain' : ChainName chain') {rule expected : FwRule} (hok : RuleOk rule) (hexp : ExpectedRule expected)
    (hown : anyPair (isCommentPair comment) rule = true ∨ anyPair jumpPair rule = true)
    (h : portForwardFieldsKey (parseIptablesSpec (rowText chain rule)) =
      portForwardFieldsKey (parseIptablesSpec (rowText chain' expected))) :
    chain = chain' ∧ rule = expected := by
  rw [rowText_key hchain hok, rowText_key hchain' hexp.ruleOk] at h
  have hfree : ∀ {chain : Text} (_ : ChainName chain) {rule : FwRule}, RuleOk rule →
      ∀ token ∈ rowTokens chain rule, Char.ofNat 0 ∉ token := fun hn _ hr token ht =>
    not_mem_of_isPlain ((rowTokens_plain hn hr).2 token (mem_dropImplied ht)) (by decide)
  have htokens := join_inj (by simp [rowTokens_cons hchain]) (by simp [rowTokens_cons hchain'])
    (hfree hchain hok) (hfree hchain' hexp.ruleOk) h
  have hsame : chain = chain' := by
    rw [rowTokens_cons hchain, rowTokens_cons hchain'] at htokens
    exact (List.cons.inj (List.cons.inj htokens).2).1
  subst hsame
  rw [rowTokens_expected hchain hexp] at htokens
  exact ⟨rfl, row_eq_of_tokens hcomment hchain.word hchain.not_m hok hexp hown htokens⟩

/-- The agent's rules are exactly the plan's. -/
structure RulesMatch (comment : Text) (plan : HysteriaPortForwardPlan) (fw : Firewall) : Prop where
  nat : ∀ rule, (rule ∈ fw.prerouting ∧ natManaged comment rule = true) ↔
    ∃ r ∈ plan.natRules, rule = redirectFields r
  input : ∀ rule, (rule ∈ fw.input ∧ inputManaged comment rule = true) ↔
    ∃ r ∈ plan.allowRules, rule = allowFields r

theorem anyPair_of_mem {p : Text → Text → Bool} {a b : Text} (h : p a b = true) (after : List Text) :
    ∀ (before : List Text), anyPair p (before ++ a :: b :: after) = true
  | [] => by simp [anyPair, h]
  | x :: before => by
    rw [List.cons_append, anyPair_cons, anyPair_of_mem h after before, Bool.or_true]

theorem isCommentPair_self {comment : Text} (hc : CommentOk comment) :
    isCommentPair comment "--comment" comment = true := by
  have htrim : trimQuotes comment = comment :=
    trimQuotes_of_plain fun c h => ((isWord_iff.1 hc.word).2 c h).1
  rw [isCommentPair, htrim, decide_eq_true rfl, decide_eq_true rfl]
  rfl

theorem natManaged_redirectFields {rule : PortForwardRule} (hc : CommentOk rule.comment) :
    natManaged rule.comment (redirectFields rule) = true := by
  have hpair : natPair rule.comment "--comment" rule.comment = true := by
    rw [natPair, isCommentPair_self hc, Bool.or_true]
  have := anyPair_of_mem hpair ["-j", "REDIRECT", "--to-ports", decimal rule.targetPort]
    (("-p" : Text) :: rule.protocol :: (rule.matcher.args ++ (["-m", "comment"] : List Text)))
  simpa only [natManaged, redirectFields, List.cons_append, List.append_assoc, List.nil_append] using this

theorem inputManaged_allowFields {rule : FirewallAllowRule} (hc : CommentOk rule.comment) :
    inputManaged rule.comment (allowFields rule) = true := by
  have h₁ := anyPair_of_mem (isCommentPair_self hc) ["-j", "ACCEPT"]
    ["-p", rule.protocol, "--dport", decimal rule.port, "-m", "comment"]
  have h₂ := anyPair_of_mem (show acceptPair "-j" "ACCEPT" = true by decide) []
    ["-p", rule.protocol, "--dport", decimal rule.port, "-m", "comment", "--comment", rule.comment]
  rw [inputManaged, Bool.and_eq_true]
  exact ⟨h₁, h₂⟩

theorem own_of_natManaged {comment : Text} : ∀ {rule : FwRule}, natManaged comment rule = true →
    anyPair (isCommentPair comment) rule = true ∨ anyPair jumpPair rule = true
  | a :: b :: rest, h => by
    simp only [natManaged, anyPair, Bool.or_eq_true] at h
    rcases h with h | h
    · simp only [natPair, Bool.or_eq_true] at h
      rcases h with h | h
      · refine Or.inr ?_
        rw [anyPair, jumpPair]
        simp only [Bool.and_eq_true] at h
        rw [h.1.2, h.2]
        rfl
      · exact Or.inl (by rw [anyPair, h, Bool.true_or])
    · rcases own_of_natManaged h with h | h
      · exact Or.inl (by rw [anyPair, h, Bool.or_true])
      · exact Or.inr (by rw [anyPair, h, Bool.or_true])

theorem expectedSpecs_eq {comment : Text} {plan : HysteriaPortForwardPlan} (hplan : PlanOk comment plan) :
    expectedHysteriaManagedSpecs plan.natRules plan.allowRules =
      plan.natRules.map (fun r => rowText "PREROUTING" (redirectFields r)) ++
        plan.allowRules.map fun r => rowText "INPUT" (allowFields r) := by
  have hnorm : ∀ {chain : Text} (_ : ChainName chain) {rule : FwRule}, ExpectedRule rule →
      normalizePortForwardSpecFields (("-A" : Text) :: chain :: rule) = ("-A" : Text) :: chain :: rule := by
    intro chain hn rule he
    rw [normalizePortForwardSpecFields, normalizeFrom_of_plain _ none (rowTokens_plain hn he.ruleOk).1,
      dropImplied_cons (by decide), dropImplied_cons hn.not_m, he.canonical]
  unfold expectedHysteriaManagedSpecs
  congr 1
  · refine List.map_congr_left fun r hr => ?_
    rw [expectedPortForwardSpecFields, hnorm chainName_prerouting (hplan.nat r hr).2, rowText]
  · refine List.map_congr_left fun r hr => ?_
    rw [expectedFirewallAllowSpecFields, hnorm chainName_input (hplan.allow r hr).2, rowText]

section

variable (printer : Printer) {comment : Text} (hc : CommentOk comment) {plan : HysteriaPortForwardPlan}
  (hplan : PlanOk comment plan) {fw : Firewall} (hok : FirewallOk fw) (hblank : NoBlankComment comment fw)
include hc hplan hok hblank

/-- **Inspecting** reports no difference exactly when there is none. -/
theorem clean_iff (tool : Text) (staleChain : Bool) :
    let status := inspectManagedSpecsWithComment tool plan.natRules plan.allowRules
      (printer.printChain "PREROUTING" fw.prerouting) (printer.printChain "INPUT" fw.input) staleChain comment
    (status.missing = [] ∧ status.extra = []) ↔ RulesMatch comment plan fw := by
  have hne : ("PREROUTING" : Text) ≠ "INPUT" := by decide
  simp only [inspectManagedSpecsWithComment, specsOnlyIn_eq_nil, expectedSpecs_eq hplan,
    listPortForwardSpecs_printChain printer hc hok hblank, listFirewallAllowSpecs_printChain printer hc hok hblank,
    List.mem_append, List.mem_map, List.mem_filter]
  constructor
  · rintro ⟨hmissing, hextra⟩
    refine ⟨fun rule => ⟨?_, ?_⟩, fun rule => ⟨?_, ?_⟩⟩
    · rintro ⟨hr, hm⟩
      obtain ⟨_, ⟨e, he, rfl⟩ | ⟨e, he, rfl⟩, hkey⟩ := hextra _ (Or.inl ⟨rule, ⟨hr, hm⟩, rfl⟩)
      · exact ⟨e, he, (rowText_key_inj hc.word chainName_prerouting chainName_prerouting (hok.prerouting rule hr)
          (hplan.nat e he).2 (own_of_natManaged hm) hkey.symm).2⟩
      · exact absurd (rowText_key_inj hc.word chainName_prerouting chainName_input (hok.prerouting rule hr)
          (hplan.allow e he).2 (own_of_natManaged hm) hkey.symm).1 hne
    · rintro ⟨e, he, rfl⟩
      obtain ⟨_, ⟨rule, ⟨hr, hm⟩, rfl⟩ | ⟨rule, ⟨hr, hm⟩, rfl⟩, hkey⟩ := hmissing _ (Or.inl ⟨e, he, rfl⟩)
      · rw [← (rowText_key_inj hc.word chainName_prerouting chainName_prerouting (hok.prerouting rule hr)
          (hplan.nat e he).2 (own_of_natManaged hm) hkey).2]
        exact ⟨hr, hm⟩
      · have hown : anyPair (isCommentPair comment) rule = true := by
          rw [inputManaged, Bool.and_eq_true] at hm
          exact hm.1
        exact absurd (rowText_key_inj hc.word chainName_input chainName_prerouting (hok.input rule hr)
          (hplan.nat e he).2 (Or.inl hown) hkey).1.symm hne
    · rintro ⟨hr, hm⟩
      have hown : anyPair (isCommentPair comment) rule = true := by
        rw [inputManaged, Bool.and_eq_true] at hm
        exact hm.1
      obtain ⟨_, ⟨e, he, rfl⟩ | ⟨e, he, rfl⟩, hkey⟩ := hextra _ (Or.inr ⟨rule, ⟨hr, hm⟩, rfl⟩)
      · exact absurd (rowText_key_inj hc.word chainName_input chainName_prerouting (hok.input rule hr)
          (hplan.nat e he).2 (Or.inl hown) hkey.symm).1.symm hne
      · exact ⟨e, he, (rowText_key_inj hc.word chainName_input chainName_input (hok.input rule hr)
          (hplan.allow e he).2 (Or.inl hown) hkey.symm).2⟩
    · rintro ⟨e, he, rfl⟩
      obtain ⟨_, ⟨rule, ⟨hr, hm⟩, rfl⟩ | ⟨rule, ⟨hr, hm⟩, rfl⟩, hkey⟩ := hmissing _ (Or.inr ⟨e, he, rfl⟩)
      · exact absurd (rowText_key_inj hc.word chainName_prerouting chainName_input (hok.prerouting rule hr)
          (hplan.allow e he).2 (own_of_natManaged hm) hkey).1 hne
      · have hown : anyPair (isCommentPair comment) rule = true := by
          rw [inputManaged, Bool.and_eq_true] at hm
          exact hm.1
        rw [← (rowText_key_inj hc.word chainName_input chainName_input (hok.input rule hr)
          (hplan.allow e he).2 (Or.inl hown) hkey).2]
        exact ⟨hr, hm⟩
  · intro h
    refine ⟨?_, ?_⟩
    · rintro _ (⟨e, he, rfl⟩ | ⟨e, he, rfl⟩)
      · obtain ⟨hr, hm⟩ := (h.nat _).2 ⟨e, he, rfl⟩
        exact ⟨_, Or.inl ⟨_, ⟨hr, hm⟩, rfl⟩, rfl⟩
      · obtain ⟨hr, hm⟩ := (h.input _).2 ⟨e, he, rfl⟩
        exact ⟨_, Or.inr ⟨_, ⟨hr, hm⟩, rfl⟩, rfl⟩
    · rintro _ (⟨rule, hr, rfl⟩ | ⟨rule, hr, rfl⟩)
      · obtain ⟨e, he, rfl⟩ := (h.nat rule).1 hr
        exact ⟨_, Or.inl ⟨e, he, rfl⟩, rfl⟩
      · obtain ⟨e, he, rfl⟩ := (h.input rule).1 hr
        exact ⟨_, Or.inr ⟨e, he, rfl⟩, rfl⟩

end

/-! ## Reconciling one table -/

/-- Erasing one occurrence for each own rule leaves exactly the others, in order. -/
theorem foldl_erase_filter {α : Type} [BEq α] [LawfulBEq α] (p : α → Bool) : ∀ (xs others : List α),
    (∀ x ∈ others, p x = false) →
    (xs.filter p).foldl List.erase (others ++ xs) = others ++ xs.filter fun x => !p x
  | [], others, _ => rfl
  | x :: xs, others, hothers => by
    cases hp : p x with
    | true =>
      have hnot : x ∉ others := fun hx => absurd hp (by rw [hothers x hx]; decide)
      rw [List.filter_cons_of_pos hp, List.filter_cons_of_neg (by simp [hp]), List.foldl_cons,
        List.erase_append_right _ hnot, List.erase_cons_head]
      exact foldl_erase_filter p xs others hothers
    | false =>
      have hnext := foldl_erase_filter p xs (others ++ [x]) fun y hy => by
        rcases List.mem_append.1 hy with hy | hy
        · exact hothers y hy
        · rw [List.mem_singleton.1 hy, hp]
      rw [List.filter_cons_of_neg (by simp [hp]), List.filter_cons_of_pos (by simp [hp])]
      simpa only [List.append_assoc, List.singleton_append] using hnext

/-- The table after reconciling: the other rules, then the expected ones. -/
def reconciled (comment : Text) (plan : HysteriaPortForwardPlan) (removesChain : Bool) (fw : Firewall) : Firewall where
  prerouting := (fw.prerouting.filter fun rule => !natManaged comment rule) ++ plan.natRules.map redirectFields
  input := (plan.allowRules.map allowFields).reverse ++ fw.input.filter fun rule => !inputManaged comment rule
  legacyChain := if removesChain then none else fw.legacyChain

def Firewall.runAll (fw : Firewall) (commands : List PortForwardCommand) : Firewall :=
  commands.foldl (fun fw command => fw.run command.args) fw

theorem Firewall.runAll_append (fw : Firewall) (xs ys : List PortForwardCommand) :
    fw.runAll (xs ++ ys) = (fw.runAll xs).runAll ys := by
  rw [Firewall.runAll, List.foldl_append]
  rfl

theorem runAll_deleteNat (printer : Printer) (tool : Text) : ∀ (rules : List FwRule) (fw : Firewall),
    (∀ rule ∈ rules, RuleOk rule) →
    fw.runAll (rules.map fun rule =>
        { tool, args := "-t" :: "nat" :: "-D" :: "PREROUTING" :: printer.printed rule }) =
      { fw with prerouting := rules.foldl List.erase fw.prerouting }
  | [], _, _ => rfl
  | rule :: rules, fw, hok => by
    obtain ⟨hrule, hrules⟩ := List.forall_mem_cons.1 hok
    have hrun : fw.run ("-t" :: "nat" :: "-D" :: "PREROUTING" :: printer.printed rule) =
        { fw with prerouting := fw.prerouting.erase rule } := by
      conv => rhs; rw [← dropImplied_printed printer hrule]
      rfl
    have hnext := runAll_deleteNat printer tool rules { fw with prerouting := fw.prerouting.erase rule } hrules
    rw [Firewall.runAll, List.map_cons, List.foldl_cons, hrun]
    exact hnext

theorem runAll_deleteInput (printer : Printer) (tool : Text) : ∀ (rules : List FwRule) (fw : Firewall),
    (∀ rule ∈ rules, RuleOk rule) →
    fw.runAll (rules.map fun rule => { tool, args := "-D" :: "INPUT" :: printer.printed rule }) =
      { fw with input := rules.foldl List.erase fw.input }
  | [], _, _ => rfl
  | rule :: rules, fw, hok => by
    obtain ⟨hrule, hrules⟩ := List.forall_mem_cons.1 hok
    have hrun : fw.run ("-D" :: "INPUT" :: printer.printed rule) = { fw with input := fw.input.erase rule } := by
      conv => rhs; rw [← dropImplied_printed printer hrule]
      rfl
    have hnext := runAll_deleteInput printer tool rules { fw with input := fw.input.erase rule } hrules
    rw [Firewall.runAll, List.map_cons, List.foldl_cons, hrun]
    exact hnext

theorem runAll_addRedirect (tool : Text) : ∀ (rules : List PortForwardRule) (fw : Firewall),
    (∀ rule ∈ rules, ExpectedRule (redirectFields rule)) →
    fw.runAll (rules.map (addRedirectCommand tool)) =
      { fw with prerouting := fw.prerouting ++ rules.map redirectFields }
  | [], fw, _ => by simp [Firewall.runAll]
  | rule :: rules, fw, hexp => by
    obtain ⟨hrule, hrules⟩ := List.forall_mem_cons.1 hexp
    have hrun : fw.run (addRedirectCommand tool rule).args =
        { fw with prerouting := fw.prerouting ++ [redirectFields rule] } := by
      conv => rhs; rw [← hrule.canonical]
      rfl
    have hnext := runAll_addRedirect tool rules { fw with prerouting := fw.prerouting ++ [redirectFields rule] } hrules
    rw [Firewall.runAll, List.map_cons, List.foldl_cons, hrun]
    refine hnext.trans ?_
    simp only [List.append_assoc, List.singleton_append, List.map_cons]

theorem runAll_addAllow (tool : Text) : ∀ (rules : List FirewallAllowRule) (fw : Firewall),
    (∀ rule ∈ rules, ExpectedRule (allowFields rule)) →
    fw.runAll (rules.map (addAllowCommand tool)) =
      { fw with input := (rules.map allowFields).reverse ++ fw.input }
  | [], fw, _ => by simp [Firewall.runAll]
  | rule :: rules, fw, hexp => by
    obtain ⟨hrule, hrules⟩ := List.forall_mem_cons.1 hexp
    have hrun : fw.run (addAllowCommand tool rule).args = { fw with input := allowFields rule :: fw.input } := by
      conv => rhs; rw [← hrule.canonical]
      rfl
    have hnext := runAll_addAllow tool rules { fw with input := allowFields rule :: fw.input } hrules
    rw [Firewall.runAll, List.map_cons, List.foldl_cons, hrun]
    refine hnext.trans ?_
    simp only [List.map_cons, List.reverse_cons, List.append_assoc, List.singleton_append]

theorem runAll_removeChain (tool : Text) (fw : Firewall) :
    fw.runAll (removeChainCommands tool) = { fw with legacyChain := none } := by
  cases fw
  rfl

section

variable (printer : Printer) {comment : Text} (hc : CommentOk comment) {plan : HysteriaPortForwardPlan}
  (hplan : PlanOk comment plan) {fw : Firewall} (hok : FirewallOk fw) (hblank : NoBlankComment comment fw)
include hc hplan hok hblank

/-- **Reconciling** with or without the two commands that remove the legacy chain. -/
theorem runAll_reconcile (tool : Text) (removesChain : Bool) :
    fw.runAll (deletePortForwardCommandsWithComment tool (printer.printChain "PREROUTING" fw.prerouting) comment ++
      deleteFirewallAllowCommandsWithComment tool (printer.printChain "INPUT" fw.input) comment ++
      (if removesChain then removeChainCommands tool else []) ++
      plan.natRules.map (addRedirectCommand tool) ++ plan.allowRules.map (addAllowCommand tool)) =
      reconciled comment plan removesChain fw := by
  have hnat := foldl_erase_filter (natManaged comment) fw.prerouting [] (by simp)
  have hinput := foldl_erase_filter (inputManaged comment) fw.input [] (by simp)
  rw [deletePortForwardCommands_printChain printer hc hok hblank,
    deleteFirewallAllowCommands_printChain printer hc hok hblank]
  simp only [Firewall.runAll_append]
  rw [runAll_deleteNat printer tool _ _ fun rule hr => hok.prerouting rule (List.mem_filter.1 hr).1,
    runAll_deleteInput printer tool _ _ fun rule hr => hok.input rule (List.mem_filter.1 hr).1]
  simp only [List.nil_append] at hnat hinput
  simp only [hnat, hinput]
  cases removesChain with
  | true =>
    simp only [if_true]
    rw [runAll_removeChain, runAll_addRedirect tool _ _ fun r hr => (hplan.nat r hr).2,
      runAll_addAllow tool _ _ fun r hr => (hplan.allow r hr).2]
    rfl
  | false =>
    simp only [Bool.false_eq_true, if_false]
    rw [show ∀ fw : Firewall, fw.runAll [] = fw from fun _ => rfl,
      runAll_addRedirect tool _ _ fun r hr => (hplan.nat r hr).2,
      runAll_addAllow tool _ _ fun r hr => (hplan.allow r hr).2]
    rfl

end

theorem filter_not_map {α β : Type} {p : β → Bool} {f : α → β} {xs : List α} (h : ∀ x ∈ xs, p (f x) = true) :
    ((xs.map f).filter fun y => !p y) = [] := by
  refine List.filter_eq_nil_iff.2 fun y hy => ?_
  obtain ⟨x, hx, rfl⟩ := List.mem_map.1 hy
  simp [h x hx]

/-- What a repair owes the rules of everybody else: they are the same, in the same order. -/
structure OthersKept (comment : Text) (before after : Firewall) : Prop where
  prerouting : (after.prerouting.filter fun rule => !natManaged comment rule) =
    before.prerouting.filter fun rule => !natManaged comment rule
  input : (after.input.filter fun rule => !inputManaged comment rule) =
    before.input.filter fun rule => !inputManaged comment rule

section

variable {comment : Text} (hc : CommentOk comment) {plan : HysteriaPortForwardPlan} (hplan : PlanOk comment plan)
include hplan

include hc in
theorem natManaged_of_plan : ∀ r ∈ plan.natRules, natManaged comment (redirectFields r) = true := by
  intro r hr
  obtain ⟨rfl, _⟩ := hplan.nat r hr
  exact natManaged_redirectFields hc

include hc in
theorem inputManaged_of_plan : ∀ r ∈ plan.allowRules, inputManaged comment (allowFields r) = true := by
  intro r hr
  obtain ⟨rfl, _⟩ := hplan.allow r hr
  exact inputManaged_allowFields hc

include hc in
theorem reconciled_others (removesChain : Bool) (fw : Firewall) :
    OthersKept comment fw (reconciled comment plan removesChain fw) where
  prerouting := by
    simp only [reconciled, List.filter_append, List.filter_filter, Bool.and_self,
      filter_not_map (natManaged_of_plan hc hplan), List.append_nil]
  input := by
    simp only [reconciled, List.filter_append, List.filter_filter, Bool.and_self, List.filter_reverse,
      filter_not_map (inputManaged_of_plan hc hplan), List.reverse_nil, List.nil_append]

include hc in
theorem reconciled_match (removesChain : Bool) (fw : Firewall) :
    RulesMatch comment plan (reconciled comment plan removesChain fw) where
  nat := by
    intro rule
    simp only [reconciled, List.mem_append, List.mem_filter, List.mem_map]
    constructor
    · rintro ⟨⟨_, hnot⟩ | ⟨r, hr, rfl⟩, hm⟩
      · rw [hm] at hnot
        cases hnot
      · exact ⟨r, hr, rfl⟩
    · rintro ⟨r, hr, rfl⟩
      exact ⟨Or.inr ⟨r, hr, rfl⟩, natManaged_of_plan hc hplan r hr⟩
  input := by
    intro rule
    simp only [reconciled, List.mem_append, List.mem_reverse, List.mem_filter, List.mem_map]
    constructor
    · rintro ⟨⟨r, hr, rfl⟩ | ⟨_, hnot⟩, hm⟩
      · exact ⟨r, hr, rfl⟩
      · rw [hm] at hnot
        cases hnot
    · rintro ⟨r, hr, rfl⟩
      exact ⟨Or.inl ⟨r, hr, rfl⟩, inputManaged_of_plan hc hplan r hr⟩

/-- A rule of the reconciled table is an old one or an expected one. -/
theorem mem_reconciled {removesChain : Bool} {fw : Firewall} :
    (∀ rule ∈ (reconciled comment plan removesChain fw).prerouting, rule ∈ fw.prerouting ∨ ExpectedRule rule) ∧
    ∀ rule ∈ (reconciled comment plan removesChain fw).input, rule ∈ fw.input ∨ ExpectedRule rule := by
  simp only [reconciled, List.mem_append, List.mem_reverse, List.mem_filter, List.mem_map]
  refine ⟨?_, ?_⟩
  · rintro rule (⟨hr, _⟩ | ⟨r, hr, rfl⟩)
    · exact Or.inl hr
    · exact Or.inr (hplan.nat r hr).2
  · rintro rule (⟨r, hr, rfl⟩ | ⟨hr, _⟩)
    · exact Or.inr (hplan.allow r hr).2
    · exact Or.inl hr

theorem reconciled_firewallOk {removesChain : Bool} {fw : Firewall} (hok : FirewallOk fw) :
    FirewallOk (reconciled comment plan removesChain fw) where
  prerouting rule hr := ((mem_reconciled hplan).1 rule hr).elim (hok.prerouting rule) ExpectedRule.ruleOk
  input rule hr := ((mem_reconciled hplan).2 rule hr).elim (hok.input rule) ExpectedRule.ruleOk

/-- Reconciling one family's rules brings no empty comment in for the other. -/
theorem reconciled_noBlankComment {other : Text} {removesChain : Bool} {fw : Firewall}
    (hblank : NoBlankComment other fw) : NoBlankComment other (reconciled comment plan removesChain fw) where
  prerouting rule hr hb := ((mem_reconciled hplan).1 rule hr).elim (fun h => hblank.prerouting rule h hb)
    fun h => absurd hb (no_blank_of_words h.words)
  input rule hr hb := ((mem_reconciled hplan).2 rule hr).elim (fun h => hblank.input rule h hb)
    fun h => absurd hb (no_blank_of_words h.words)

end

/-! ## One family beside the other -/

theorem commentPair_of_mem {comment : Text} {rule : FwRule} (h : anyPair (isCommentPair comment) rule = true) :
    ("--comment" : Text) ∈ rule := by
  induction rule with
  | nil => cases h
  | cons field rule ih =>
    rw [anyPair_cons, Bool.or_eq_true] at h
    rcases h with h | h
    · obtain ⟨next, -, hpair⟩ := Option.any_eq_true _ _ |>.1 h
      rw [isCommentPair, Bool.and_eq_true] at hpair
      rw [of_decide_eq_true hpair.1]
      exact List.mem_cons_self
    · exact List.mem_cons_of_mem _ (ih h)

/-- A rule with one comment belongs to one family at most. -/
theorem comment_unique {a b : Text} {rule : FwRule} (hcount : rule.count ("--comment" : Text) ≤ 1)
    (ha : anyPair (isCommentPair a) rule = true) (hb : anyPair (isCommentPair b) rule = true) : a = b := by
  induction rule with
  | nil => cases ha
  | cons field rule ih =>
    rw [anyPair_cons, Bool.or_eq_true] at ha hb
    by_cases hfield : field = ("--comment" : Text)
    · have hnone : ("--comment" : Text) ∉ rule := by
        rw [hfield, List.count_cons_self] at hcount
        exact List.count_eq_zero.1 (by omega)
      obtain ⟨next, hnext, hpair⟩ := Option.any_eq_true _ _ |>.1 (ha.resolve_right fun h => hnone (commentPair_of_mem h))
      obtain ⟨next', hnext', hpair'⟩ := Option.any_eq_true _ _ |>.1 (hb.resolve_right fun h => hnone (commentPair_of_mem h))
      rw [hnext] at hnext'
      cases hnext'
      rw [isCommentPair, Bool.and_eq_true] at hpair hpair'
      rw [← of_decide_eq_true hpair.2, ← of_decide_eq_true hpair'.2]
    · have hnot : ∀ comment, ¬rule.head?.any (isCommentPair comment field) = true := by
        intro comment h
        obtain ⟨next, -, hpair⟩ := Option.any_eq_true _ _ |>.1 h
        rw [isCommentPair, Bool.and_eq_true] at hpair
        exact hfield (of_decide_eq_true hpair.1)
      rw [List.count_cons_of_ne hfield] at hcount
      exact ih hcount (ha.resolve_left (hnot a)) (hb.resolve_left (hnot b))

/-- A planned rule is its own family's only. -/
theorem ExpectedRule.not_natManaged {comment other : Text} {rule : FwRule} (h : ExpectedRule rule) (hne : comment ≠ other)
    (hown : natManaged comment rule = true) : natManaged other rule = false := by
  have hcomment : ∀ comment, natManaged comment rule = true → anyPair (isCommentPair comment) rule = true := by
    intro comment hmanaged
    refine (own_of_natManaged hmanaged).resolve_right fun hjump => ?_
    rw [h.no_jump] at hjump
    cases hjump
  by_contra hother
  exact hne (comment_unique (Nat.le_of_eq h.one_comment) (hcomment comment hown) (hcomment other (by simpa using hother)))

theorem ExpectedRule.not_inputManaged {comment other : Text} {rule : FwRule} (h : ExpectedRule rule) (hne : comment ≠ other)
    (hown : inputManaged comment rule = true) : inputManaged other rule = false := by
  by_contra hother
  rw [Bool.not_eq_false, inputManaged, Bool.and_eq_true] at hother
  rw [inputManaged, Bool.and_eq_true] at hown
  exact hne (comment_unique (Nat.le_of_eq h.one_comment) hown.1 hother.1)

/-- Where the rules of others are kept and ours are not theirs, ours are kept. -/
theorem mem_beside {own other : FwRule → Bool} {before after : List FwRule}
    (hkept : (after.filter fun rule => !other rule) = before.filter fun rule => !other rule)
    (hbefore : ∀ rule ∈ before, own rule = true → other rule = false)
    (hafter : ∀ rule ∈ after, own rule = true → other rule = false) (rule : FwRule) :
    (rule ∈ after ∧ own rule = true) ↔ (rule ∈ before ∧ own rule = true) := by
  refine and_congr_left fun hown => ⟨fun hmem => ?_, fun hmem => ?_⟩
  · have hfilter : rule ∈ after.filter fun rule => !other rule :=
      List.mem_filter.2 ⟨hmem, by rw [hafter rule hmem hown]; rfl⟩
    rw [hkept] at hfilter
    exact (List.mem_filter.1 hfilter).1
  · have hfilter : rule ∈ before.filter fun rule => !other rule :=
      List.mem_filter.2 ⟨hmem, by rw [hbefore rule hmem hown]; rfl⟩
    rw [← hkept] at hfilter
    exact (List.mem_filter.1 hfilter).1

/-- A repair of the other family leaves this family's rules as planned. -/
theorem RulesMatch.beside {comment other : Text} {plan otherPlan : HysteriaPortForwardPlan} {before after : Firewall}
    (h : RulesMatch comment plan before) (hkept : OthersKept other before after)
    (hmatch : RulesMatch other otherPlan after) (hplan : PlanOk comment plan) (hotherPlan : PlanOk other otherPlan)
    (hne : comment ≠ other) : RulesMatch comment plan after where
  nat rule := by
    rw [← h.nat rule]
    refine mem_beside hkept.prerouting (fun rule hmem hown => ?_) (fun rule hmem hown => ?_) rule
    · obtain ⟨r, hr, rfl⟩ := (h.nat rule).1 ⟨hmem, hown⟩
      exact (hplan.nat r hr).2.not_natManaged hne hown
    · by_contra hother
      obtain ⟨r, hr, rfl⟩ := (hmatch.nat rule).1 ⟨hmem, by simpa using hother⟩
      exact hother ((hotherPlan.nat r hr).2.not_natManaged hne hown)
  input rule := by
    rw [← h.input rule]
    refine mem_beside hkept.input (fun rule hmem hown => ?_) (fun rule hmem hown => ?_) rule
    · obtain ⟨r, hr, rfl⟩ := (h.input rule).1 ⟨hmem, hown⟩
      exact (hplan.allow r hr).2.not_inputManaged hne hown
    · by_contra hother
      obtain ⟨r, hr, rfl⟩ := (hmatch.input rule).1 ⟨hmem, by simpa using hother⟩
      exact hother ((hotherPlan.allow r hr).2.not_inputManaged hne hown)

end KeliNode
