import KeliNode.PortForward.Managed
import KeliNode.PortForward.Safety

/-!
# What the agent expects and what it lists

The rules of a plan have one shape (`PlanOk`): plain words, one comment, no jump to the legacy chain.  Run
on a printed table, the agent's listing functions return its own rules, and its deletion commands name them,
as long as none of its own rules carries an empty comment (`NoBlankComment`).
-/

namespace KeliNode

open Lib

/-! ## The rules of a plan -/

/-- Every rule of the plan has the expected shape and the family's comment. -/
structure PlanOk (comment : Text) (plan : HysteriaPortForwardPlan) : Prop where
  nat : ∀ rule ∈ plan.natRules, rule.comment = comment ∧ ExpectedRule (redirectFields rule)
  allow : ∀ rule ∈ plan.allowRules, rule.comment = comment ∧ ExpectedRule (allowFields rule)

/-- A field that is none of the flags the agent looks for. -/
structure NoFlag (field : Text) : Prop where
  m : field ≠ "-m"
  j : field ≠ "-j"
  comment : field ≠ "--comment"

theorem noFlag_decimal (n : Nat) : NoFlag (decimal n) := by
  have h : ∀ field : Text, '-' ∈ field → decimal n ≠ field := by
    rintro field hf rfl
    exact not_mem_decimal (by decide) n hf
  exact ⟨h _ (by decide), h _ (by decide), h _ (by decide)⟩

theorem jumpPair_ne {a : Text} (h : a ≠ "-j") (b : Text) : jumpPair a b = false := by
  rw [jumpPair, decide_eq_false h, Bool.false_and]

theorem anyPair_jump_cons {a : Text} (h : a ≠ "-j") (rest : List Text) :
    anyPair jumpPair (a :: rest) = anyPair jumpPair rest := by
  rw [anyPair_cons]
  cases rest.head? <;> simp [jumpPair_ne h]

/-- The arguments of an accepted matcher: one of two shapes, with no flag in the port position. -/
theorem args_shape {m : PortForwardMatcher} (h : m.ports.isSome) :
    (∃ spec, m.args = [("--dport" : Text), spec] ∧ NoFlag spec) ∨
    ∃ list, m.args = [("-m" : Text), "multiport", "--dports", list] ∧ NoFlag list := by
  unfold PortForwardMatcher.ports at h
  split at h
  · rename_i flag spec hargs
    by_cases hf : flag = ("--dport" : Text)
    · refine Or.inl ⟨spec, by rw [hargs, hf], ?_⟩
      rw [if_pos hf] at h
      refine ⟨?_, ?_, ?_⟩ <;> rintro rfl <;> exact absurd h (by decide)
    · rw [if_neg hf] at h
      cases h
  · rename_i a b c list hargs
    by_cases hf : a = ("-m" : Text) ∧ b = ("multiport" : Text) ∧ c = ("--dports" : Text)
    · refine Or.inr ⟨list, by rw [hargs, hf.1, hf.2.1, hf.2.2], ?_⟩
      rw [if_pos hf] at h
      refine ⟨?_, ?_, ?_⟩ <;> rintro rfl <;> exact absurd h (by decide)
    · rw [if_neg hf] at h
      cases h
  · cases h

/-- The fields every rule of the agent ends in. -/
theorem expectedRule_tail {comment : Text} {target : List Text} (hc : isWord comment = true) (hf : NoFlag comment)
    (hwords : ∀ field ∈ target, isWord field = true) (hcanon : dropImplied target = target)
    (hcount : target.count ("--comment" : Text) = 0)
    (hjump : anyPair jumpPair (("-j" : Text) :: target) = false) :
    ExpectedRule (("-m" : Text) :: "comment" :: "--comment" :: comment :: "-j" :: target) where
  words := by
    simp only [List.forall_mem_cons]
    exact ⟨by decide, by decide, by decide, hc, by decide, hwords⟩
  canonical := by
    rw [dropImplied_cons_cons (by decide), dropImplied_cons (by decide), dropImplied_cons (by decide),
      dropImplied_cons hf.m, dropImplied_cons (by decide), hcanon]
  one_comment := by
    rw [List.count_cons_of_ne (by decide), List.count_cons_of_ne (by decide), List.count_cons_self,
      List.count_cons_of_ne hf.comment, List.count_cons_of_ne (by decide), hcount]
  no_jump := by
    rw [anyPair_jump_cons (by decide), anyPair_jump_cons (by decide), anyPair_jump_cons (by decide),
      anyPair_jump_cons hf.j, hjump]

/-- A flagless word in front keeps the shape. -/
theorem ExpectedRule.cons {rule : FwRule} (h : ExpectedRule rule) {field : Text} (hw : isWord field = true)
    (hf : NoFlag field) : ExpectedRule (field :: rule) where
  words := List.forall_mem_cons.2 ⟨hw, h.words⟩
  canonical := by rw [dropImplied_cons hf.m, h.canonical]
  one_comment := by rw [List.count_cons_of_ne hf.comment, h.one_comment]
  no_jump := by rw [anyPair_jump_cons hf.j, h.no_jump]

theorem ExpectedRule.cons_multiport {rest : FwRule} (h : ExpectedRule (("multiport" : Text) :: rest)) :
    ExpectedRule (("-m" : Text) :: "multiport" :: rest) where
  words := List.forall_mem_cons.2 ⟨by decide, h.words⟩
  canonical := by
    rw [dropImplied_cons_cons (by decide), h.canonical]
  one_comment := by rw [List.count_cons_of_ne (by decide), h.one_comment]
  no_jump := by rw [anyPair_jump_cons (by decide), h.no_jump]

theorem TcpOrUdp.word {q : Text} (h : TcpOrUdp q) : isWord q = true ∧ NoFlag q := by
  rcases h with rfl | rfl
  · exact ⟨by decide, by decide, by decide, by decide⟩
  · exact ⟨by decide, by decide, by decide, by decide⟩

theorem expectedRule_redirectFields {rule : PortForwardRule} (hq : TcpOrUdp rule.protocol)
    (hm : rule.matcher.WellFormed) (hc : isWord rule.comment = true) (hf : NoFlag rule.comment) :
    ExpectedRule (redirectFields rule) := by
  have htail : ExpectedRule (("-m" : Text) :: "comment" :: "--comment" :: rule.comment :: "-j" ::
      ["REDIRECT", "--to-ports", decimal rule.targetPort]) := by
    have hd := noFlag_decimal rule.targetPort
    refine expectedRule_tail hc hf ?_ ?_ ?_ ?_
    · simp only [List.forall_mem_cons]
      exact ⟨by decide, by decide, isWord_decimal _, by simp⟩
    · rw [dropImplied_cons (by decide), dropImplied_cons (by decide), dropImplied_cons hd.m]
      rfl
    · rw [List.count_cons_of_ne (by decide), List.count_cons_of_ne (by decide), List.count_cons_of_ne hd.comment]
      rfl
    · have h₁ : jumpPair "-j" "REDIRECT" = false := by decide
      rw [anyPair, h₁, Bool.false_or, anyPair_jump_cons (by decide), anyPair_jump_cons (by decide),
        anyPair_jump_cons hd.j]
      rfl
  have hargs : ExpectedRule (rule.matcher.args ++ (("-m" : Text) :: "comment" :: "--comment" :: rule.comment ::
      "-j" :: ["REDIRECT", "--to-ports", decimal rule.targetPort])) := by
    rcases args_shape hm.accepted with ⟨spec, hargs, hspec⟩ | ⟨list, hargs, hlist⟩
    · have hword : isWord spec = true := hm.args_word spec (by rw [hargs]; simp)
      rw [hargs]
      exact (htail.cons hword hspec).cons (by decide) ⟨by decide, by decide, by decide⟩
    · have hword : isWord list = true := hm.args_word list (by rw [hargs]; simp)
      rw [hargs]
      have hdports := (htail.cons hword hlist).cons (show isWord "--dports" = true by decide)
        ⟨by decide, by decide, by decide⟩
      exact (hdports.cons (by decide) ⟨by decide, by decide, by decide⟩).cons_multiport
  exact (hargs.cons hq.word.1 hq.word.2).cons (by decide) ⟨by decide, by decide, by decide⟩

theorem expectedRule_allowFields {rule : FirewallAllowRule} (hq : TcpOrUdp rule.protocol)
    (hc : isWord rule.comment = true) (hf : NoFlag rule.comment) : ExpectedRule (allowFields rule) := by
  have htail : ExpectedRule (("-m" : Text) :: "comment" :: "--comment" :: rule.comment :: "-j" :: ["ACCEPT"]) := by
    refine expectedRule_tail hc hf ?_ rfl rfl rfl
    simp only [List.forall_mem_cons]
    exact ⟨by decide, by simp⟩
  have hdport := (htail.cons (isWord_decimal rule.port) (noFlag_decimal rule.port)).cons
    (show isWord "--dport" = true by decide) ⟨by decide, by decide, by decide⟩
  exact (hdport.cons hq.word.1 hq.word.2).cons (by decide) ⟨by decide, by decide, by decide⟩

/-- A family's comment: a flagless word. -/
structure CommentOk (comment : Text) : Prop where
  word : isWord comment = true
  noFlag : NoFlag comment

theorem commentOk_hysteria : CommentOk HYSTERIA_PORT_FORWARD_COMMENT :=
  ⟨by decide, by decide, by decide, by decide⟩

theorem commentOk_mieru : CommentOk MIERU_PORT_FORWARD_COMMENT :=
  ⟨by decide, by decide, by decide, by decide⟩

theorem planOk_hysteria (infos : List NodeInfo) :
    PlanOk HYSTERIA_PORT_FORWARD_COMMENT (buildHysteriaPortForwardPlan infos) where
  nat := by
    intro rule hr
    have hk := (hysteria_allotted infos).keyed
    have hcomment : rule.comment = HYSTERIA_PORT_FORWARD_COMMENT := hk.comment rule hr
    refine ⟨hcomment, expectedRule_redirectFields (Or.inr (hk.known rule hr)) (hk.wellFormed rule hr) ?_ ?_⟩
    · rw [hcomment]; exact commentOk_hysteria.word
    · rw [hcomment]; exact commentOk_hysteria.noFlag
  allow := by
    intro rule hr
    obtain ⟨port, _, rfl⟩ := List.mem_map.1 hr
    exact ⟨rfl, expectedRule_allowFields (Or.inr rfl) commentOk_hysteria.word commentOk_hysteria.noFlag⟩

theorem mem_mieruAllowRules {rule : FirewallAllowRule} : ∀ {rules : List PortForwardRule} {seen : List Text},
    rule ∈ mieruAllowRules seen rules →
    ∃ r ∈ rules, rule = { protocol := r.protocol, port := r.targetPort, comment := r.comment }
  | [], _, h => by simp [mieruAllowRules] at h
  | r :: rules, seen, h => by
    simp only [mieruAllowRules] at h
    split at h
    · obtain ⟨r', hr', h'⟩ := mem_mieruAllowRules h
      exact ⟨r', List.mem_cons_of_mem _ hr', h'⟩
    · rcases List.mem_cons.1 h with h | h
      · exact ⟨r, List.mem_cons_self, h⟩
      · obtain ⟨r', hr', h'⟩ := mem_mieruAllowRules h
        exact ⟨r', List.mem_cons_of_mem _ hr', h'⟩

theorem planOk_mieru (infos : List NodeInfo) :
    PlanOk MIERU_PORT_FORWARD_COMMENT (buildMieruPortForwardPlan infos) where
  nat := by
    intro rule hr
    have hk := (mieru_allotted infos).keyed
    have hcomment : rule.comment = MIERU_PORT_FORWARD_COMMENT := hk.comment rule hr
    refine ⟨hcomment, expectedRule_redirectFields (hk.known rule hr) (hk.wellFormed rule hr) ?_ ?_⟩
    · rw [hcomment]; exact commentOk_mieru.word
    · rw [hcomment]; exact commentOk_mieru.noFlag
  allow := by
    intro rule hr
    have hk := (mieru_allotted infos).keyed
    obtain ⟨r, hr', rfl⟩ := mem_mieruAllowRules hr
    have hcomment : r.comment = MIERU_PORT_FORWARD_COMMENT := hk.comment r hr'
    refine ⟨hcomment, expectedRule_allowFields (hk.known r hr') ?_ ?_⟩
    · rw [hcomment]; exact commentOk_mieru.word
    · rw [hcomment]; exact commentOk_mieru.noFlag

/-! ## Reading the tables -/

/-- What iptables guarantees of the tables it prints. -/
structure FirewallOk (fw : Firewall) : Prop where
  prerouting : ∀ rule ∈ fw.prerouting, RuleOk rule
  input : ∀ rule ∈ fw.input, RuleOk rule

/-- No rule that the agent takes for its own once empty comments are skipped has an empty comment. -/
structure NoBlankComment (comment : Text) (fw : Firewall) : Prop where
  prerouting : ∀ rule ∈ fw.prerouting, [] ∈ rule → natManaged comment (readFields rule) = false
  input : ∀ rule ∈ fw.input, [] ∈ rule → inputManaged comment (readFields rule) = false

theorem anyPair_readFields {p : Text → Text → Bool} (hp : ∀ a b, p a b = true → a ≠ [] ∧ b ≠ []) :
    ∀ {fields : List Text}, anyPair p fields = true → anyPair p (readFields fields) = true
  | a :: b :: rest, h => by
    rw [readFields_cons]
    simp only [anyPair, Bool.or_eq_true] at h
    rcases h with h | h
    · obtain ⟨ha, hb⟩ := hp a b h
      rw [if_neg (by simpa using ha), readFields_cons, if_neg (by simpa using hb), anyPair, h, Bool.true_or]
    · have ih := anyPair_readFields hp h
      split
      · exact ih
      · rw [anyPair_cons, ih, Bool.or_true]

theorem isCommentPair_solid {comment a b : Text} (hc : comment ≠ []) (h : isCommentPair comment a b = true) :
    a ≠ [] ∧ b ≠ [] := by
  simp only [isCommentPair, Bool.and_eq_true, decide_eq_true_eq] at h
  refine ⟨?_, ?_⟩
  · rintro rfl
    exact absurd h.1 (by decide)
  · rintro rfl
    exact hc h.2.symm

theorem natPair_solid {comment a b : Text} (hc : comment ≠ []) (h : natPair comment a b = true) :
    a ≠ [] ∧ b ≠ [] := by
  simp only [natPair, Bool.or_eq_true, Bool.and_eq_true, decide_eq_true_eq] at h
  rcases h with ⟨⟨_, rfl⟩, rfl⟩ | h
  · exact ⟨by decide, by decide⟩
  · exact isCommentPair_solid hc h

theorem acceptPair_solid {a b : Text} (h : acceptPair a b = true) : a ≠ [] ∧ b ≠ [] := by
  simp only [acceptPair, Bool.and_eq_true, decide_eq_true_eq] at h
  obtain ⟨rfl, rfl⟩ := h
  exact ⟨by decide, by decide⟩

/-- The agent recognises a rule exactly when the rule is its own. -/
theorem natManaged_read (printer : Printer) {comment : Text} (hc : CommentOk comment) {rule : FwRule}
    (hblank : [] ∈ rule → natManaged comment (readFields rule) = false) :
    natManaged comment (readFields (printer.printed rule)) = natManaged comment rule := by
  rw [natManaged_printed]
  by_cases hb : [] ∈ rule
  · rw [hblank hb]
    cases h : natManaged comment rule with
    | false => rfl
    | true =>
      rw [← hblank hb]
      exact anyPair_readFields (fun a b => natPair_solid (isWord_iff.1 hc.word).1) h
  · rw [readFields_of_no_blank hb]

theorem inputManaged_read (printer : Printer) {comment : Text} (hc : CommentOk comment) {rule : FwRule}
    (hblank : [] ∈ rule → inputManaged comment (readFields rule) = false) :
    inputManaged comment (readFields (printer.printed rule)) = inputManaged comment rule := by
  rw [inputManaged_printed]
  by_cases hb : [] ∈ rule
  · rw [hblank hb]
    cases h : inputManaged comment rule with
    | false => rfl
    | true =>
      rw [← hblank hb]
      simp only [inputManaged, Bool.and_eq_true] at h ⊢
      rw [anyPair_readFields (fun a b => isCommentPair_solid (isWord_iff.1 hc.word).1) h.1,
        anyPair_readFields (fun a b => acceptPair_solid) h.2]
      exact ⟨rfl, rfl⟩
  · rw [readFields_of_no_blank hb]

/-- A managed rule has no empty field. -/
theorem no_blank_of_natManaged {comment : Text} (hc : CommentOk comment) {rule : FwRule}
    (hblank : [] ∈ rule → natManaged comment (readFields rule) = false) (h : natManaged comment rule = true) :
    [] ∉ rule := by
  intro hb
  have := anyPair_readFields (fun a b => natPair_solid (isWord_iff.1 hc.word).1) h
  rw [show anyPair (natPair comment) (readFields rule) = false from hblank hb] at this
  cases this

theorem no_blank_of_inputManaged {comment : Text} (hc : CommentOk comment) {rule : FwRule}
    (hblank : [] ∈ rule → inputManaged comment (readFields rule) = false) (h : inputManaged comment rule = true) :
    [] ∉ rule := by
  intro hb
  have hread := hblank hb
  simp only [inputManaged, Bool.and_eq_true] at h
  rw [inputManaged, anyPair_readFields (fun a b => isCommentPair_solid (isWord_iff.1 hc.word).1) h.1,
    anyPair_readFields (fun a b => acceptPair_solid) h.2] at hread
  cases hread

def policyLine (chain : Text) : Text := "-P " ++ chain ++ " ACCEPT"

/-- The chain names that occur in commands. -/
structure ChainName (chain : Text) : Prop where
  word : isWord chain = true
  not_comment : chain ≠ "--comment"
  not_m : chain ≠ "-m"
  policy : '\n' ∉ policyLine chain ∧ (policyLine chain).getLast? ≠ some '\r'

theorem chainName_prerouting : ChainName "PREROUTING" := ⟨by decide, by decide, by decide, by decide⟩
theorem chainName_input : ChainName "INPUT" := ⟨by decide, by decide, by decide, by decide⟩

/-- Reading a printed chain line by line is reading its rules. -/
theorem filterMap_printChain {β : Type} (printer : Printer) {chain : Text} (hchain : ChainName chain)
    {rules : List FwRule} (hok : ∀ rule ∈ rules, RuleOk rule) (g : List Text → Option β)
    (hpolicy : g (parseIptablesSpec (trim (policyLine chain))) = none) :
    (lines (printer.printChain chain rules)).filterMap (fun line => g (parseIptablesSpec (trim line))) =
      rules.filterMap fun rule => g (("-A" : Text) :: chain :: readFields (printer.printed rule)) := by
  have hlines : lines (printer.printChain chain rules) = policyLine chain :: rules.map (printer.printRule chain) := by
    refine lines_flatMap (List.forall_mem_cons.2 ⟨hchain.policy, fun line hl => ?_⟩)
    obtain ⟨rule, hr, rfl⟩ := List.mem_map.1 hl
    exact printRule_line printer hchain.word hchain.not_comment (hok rule hr)
  rw [hlines, List.filterMap_cons, hpolicy]
  simp only [List.filterMap_map]
  refine List.filterMap_congr fun rule hr => ?_
  simp only [Function.comp_apply, read_printRule printer hchain.word hchain.not_comment (hok rule hr)]

/-- A rule of a chain as a line without quotes. -/
def rowText (chain : Text) (rule : FwRule) : Text := join [' '] (("-A" : Text) :: chain :: rule)

theorem filterMap_ite_some {α β : Type} (p : α → Bool) (f : α → β) (xs : List α) :
    xs.filterMap (fun x => if p x then some (f x) else none) = (xs.filter p).map f := by
  induction xs with
  | nil => rfl
  | cons x xs ih =>
    rw [List.filterMap_cons, List.filter_cons]
    cases p x <;> simp [ih]

section

variable (printer : Printer) {comment : Text} (hc : CommentOk comment) {fw : Firewall} (hok : FirewallOk fw)
  (hblank : NoBlankComment comment fw)
include hc hok hblank

/-- The agent lists its own PREROUTING rules. -/
theorem listPortForwardSpecs_printChain :
    listPortForwardSpecsFromOutputWithComment (printer.printChain "PREROUTING" fw.prerouting) comment =
      (fw.prerouting.filter (natManaged comment)).map (rowText "PREROUTING") := by
  unfold listPortForwardSpecsFromOutputWithComment
  rw [filterMap_printChain printer chainName_prerouting hok.prerouting
    (fun fields => if isPortForwardRuleSpecWithComment fields comment then
      some (join [' '] (normalizePortForwardSpecFields fields)) else none) rfl, ← filterMap_ite_some]
  refine List.filterMap_congr fun rule hr => ?_
  simp only [isPortForwardRuleSpec_row, natManaged_read printer hc (hblank.prerouting rule hr)]
  by_cases hm : natManaged comment rule = true
  · rw [if_pos hm, if_pos hm, normalize_row printer chainName_prerouting.word chainName_prerouting.not_comment
      chainName_prerouting.not_m (hok.prerouting rule hr)
      (no_blank_of_natManaged hc (hblank.prerouting rule hr) hm)]
    rfl
  · rw [if_neg hm, if_neg hm]

/-- The agent lists its own INPUT rules. -/
theorem listFirewallAllowSpecs_printChain :
    listFirewallAllowSpecsFromOutputWithComment (printer.printChain "INPUT" fw.input) comment =
      (fw.input.filter (inputManaged comment)).map (rowText "INPUT") := by
  unfold listFirewallAllowSpecsFromOutputWithComment
  rw [filterMap_printChain printer chainName_input hok.input
    (fun fields => if isFirewallAllowRuleSpecWithComment fields comment then
      some (join [' '] (normalizePortForwardSpecFields fields)) else none) rfl, ← filterMap_ite_some]
  refine List.filterMap_congr fun rule hr => ?_
  simp only [isFirewallAllowRuleSpec_row, inputManaged_read printer hc (hblank.input rule hr)]
  by_cases hm : inputManaged comment rule = true
  · rw [if_pos hm, if_pos hm, normalize_row printer chainName_input.word chainName_input.not_comment
      chainName_input.not_m (hok.input rule hr) (no_blank_of_inputManaged hc (hblank.input rule hr) hm)]
    rfl
  · rw [if_neg hm, if_neg hm]

/-- One `-D` for each of the agent's PREROUTING rules. -/
theorem deletePortForwardCommands_printChain (tool : Text) :
    deletePortForwardCommandsWithComment tool (printer.printChain "PREROUTING" fw.prerouting) comment =
      (fw.prerouting.filter (natManaged comment)).map fun rule =>
        { tool, args := "-t" :: "nat" :: "-D" :: "PREROUTING" :: printer.printed rule } := by
  unfold deletePortForwardCommandsWithComment
  rw [filterMap_printChain printer chainName_prerouting hok.prerouting
    (fun fields => if isPortForwardRuleSpecWithComment fields comment then
      some ({ tool, args := "-t" :: "nat" :: "-D" :: fields.tail } : PortForwardCommand) else none) rfl,
    ← filterMap_ite_some]
  refine List.filterMap_congr fun rule hr => ?_
  simp only [isPortForwardRuleSpec_row, natManaged_read printer hc (hblank.prerouting rule hr)]
  by_cases hm : natManaged comment rule = true
  · have hnb := no_blank_of_natManaged hc (hblank.prerouting rule hr) hm
    rw [if_pos hm, if_pos hm, readFields_of_no_blank (no_blank_printed printer hnb)]
    rfl
  · rw [if_neg hm, if_neg hm]

/-- One `-D` for each of the agent's INPUT rules. -/
theorem deleteFirewallAllowCommands_printChain (tool : Text) :
    deleteFirewallAllowCommandsWithComment tool (printer.printChain "INPUT" fw.input) comment =
      (fw.input.filter (inputManaged comment)).map fun rule =>
        { tool, args := "-D" :: "INPUT" :: printer.printed rule } := by
  unfold deleteFirewallAllowCommandsWithComment
  rw [filterMap_printChain printer chainName_input hok.input
    (fun fields => if isFirewallAllowRuleSpecWithComment fields comment then
      some ({ tool, args := "-D" :: fields.tail } : PortForwardCommand) else none) rfl, ← filterMap_ite_some]
  refine List.filterMap_congr fun rule hr => ?_
  simp only [isFirewallAllowRuleSpec_row, inputManaged_read printer hc (hblank.input rule hr)]
  by_cases hm : inputManaged comment rule = true
  · have hnb := no_blank_of_inputManaged hc (hblank.input rule hr) hm
    rw [if_pos hm, if_pos hm, readFields_of_no_blank (no_blank_printed printer hnb)]
    rfl
  · rw [if_neg hm, if_neg hm]

end

end KeliNode
