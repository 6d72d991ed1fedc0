import KeliNode.PortForward.Iptables

/-!
# A firewall to run against

iptables as the agent sees it: a tool holds the rules of nat PREROUTING and filter INPUT, in order, and
perhaps the legacy chain.  A rule is the list of its fields.  `-S` prints them in order, with the comment
quoted where it must be and, at the printer's choice, the implied `-m udp` or `-m tcp` after the protocol;
`-A` appends, `-I` inserts first, `-D` removes the first rule with equal fields; commands do not fail.

The main fact is that the agent reads back what was printed (`read_printRule`): its tokenizer returns the
rule's fields, except that an empty comment is lost.
-/

namespace KeliNode

open Lib

/-! ## Rules and tables -/

/-- A rule's fields after the chain name. -/
abbrev FwRule := List Text

structure Firewall where
  prerouting : List FwRule := []
  input : List FwRule := []
  legacyChain : Option (List FwRule) := none
  deriving DecidableEq

def isImplied (a b : Text) : Bool := a = "-m" && (b = "udp" || b = "tcp")

/-- The fields of a rule without the match modules its protocol implies. -/
def dropImplied : List Text → List Text
  | a :: b :: rest => if isImplied a b then dropImplied rest else a :: dropImplied (b :: rest)
  | rest => rest

/-- The same rule with the implied match module written out after the protocol. -/
def insertImplied : List Text → List Text
  | a :: b :: rest =>
    if a = "-p" ∧ (b = "udp" ∨ b = "tcp") then a :: b :: "-m" :: b :: rest else a :: insertImplied (b :: rest)
  | rest => rest

/-- Every field is a plain word, except that a comment may be any text without characters that `-S` would
have to escape; `afterComment` says that the next field is a comment's text. -/
def wellFormedFrom : Bool → List Text → Bool
  | _, [] => true
  | afterComment, field :: rest =>
    (if afterComment then field.all isPlain else isWord field) &&
      wellFormedFrom (!afterComment && field = "--comment") rest

/-- A rule as iptables keeps it. -/
structure RuleOk (rule : FwRule) : Prop where
  wellFormed : wellFormedFrom false rule = true
  canonical : dropImplied rule = rule

instance (rule : FwRule) : Decidable (RuleOk rule) :=
  decidable_of_iff (wellFormedFrom false rule = true ∧ dropImplied rule = rule)
    ⟨fun h => ⟨h.1, h.2⟩, fun h => ⟨h.1, h.2⟩⟩

/-! ## Printing -/

def needsQuotes (comment : Text) : Bool := comment.isEmpty || comment.any isWhite

/-- The choices of `-S`: where to write out the implied match, which comments to quote. -/
structure Printer where
  inserts : FwRule → Bool
  quotes : Text → Bool
  quotes_needed : ∀ comment, needsQuotes comment = true → quotes comment = true

def Printer.token (printer : Printer) (afterComment : Bool) (field : Text) : Text :=
  if afterComment && printer.quotes field then '"' :: field ++ ['"'] else field

def Printer.tokens (printer : Printer) : Bool → List Text → List Text
  | _, [] => []
  | afterComment, field :: rest =>
    printer.token afterComment field :: printer.tokens (!afterComment && field = "--comment") rest

def Printer.printed (printer : Printer) (rule : FwRule) : List Text :=
  if printer.inserts rule then insertImplied rule else rule

def Printer.printRule (printer : Printer) (chain : Text) (rule : FwRule) : Text :=
  join [' '] ("-A" :: chain :: printer.tokens false (printer.printed rule))

/-- `-S`: the chain's policy, then its rules, one a line. -/
def Printer.printChain (printer : Printer) (chain : Text) (rules : List FwRule) : Text :=
  (("-P " ++ chain ++ " ACCEPT") :: rules.map (printer.printRule chain)).flatMap (· ++ ['\n'])

/-! ## Commands -/

def Firewall.run (fw : Firewall) (args : List Text) : Firewall :=
  match List.isPrefixOf? (["-t", "nat", "-A", "PREROUTING"] : List Text) args with
  | some fields => { fw with prerouting := fw.prerouting ++ [dropImplied fields] }
  | none =>
  match List.isPrefixOf? (["-t", "nat", "-D", "PREROUTING"] : List Text) args with
  | some fields => { fw with prerouting := fw.prerouting.erase (dropImplied fields) }
  | none =>
  match List.isPrefixOf? (["-I", "INPUT"] : List Text) args with
  | some fields => { fw with input := dropImplied fields :: fw.input }
  | none =>
  match List.isPrefixOf? (["-D", "INPUT"] : List Text) args with
  | some fields => { fw with input := fw.input.erase (dropImplied fields) }
  | none =>
    if args = (["-t", "nat", "-F", HYSTERIA_PORT_FORWARD_CHAIN] : List Text) then
      { fw with legacyChain := fw.legacyChain.map fun _ => [] }
    else if args = (["-t", "nat", "-X", HYSTERIA_PORT_FORWARD_CHAIN] : List Text) then { fw with legacyChain := none }
    else fw

def Firewall.list (fw : Firewall) (printer : Printer) (args : List Text) : Except Text Text :=
  if args = ["-t", "nat", "-S", "PREROUTING"] then .ok (printer.printChain "PREROUTING" fw.prerouting)
  else if args = ["-S", "INPUT"] then .ok (printer.printChain "INPUT" fw.input)
  else if args = (["-t", "nat", "-S", HYSTERIA_PORT_FORWARD_CHAIN] : List Text) then
    match fw.legacyChain with
    | some rules => .ok (printer.printChain HYSTERIA_PORT_FORWARD_CHAIN rules)
    | none => .error "No chain/target/match by that name."
  else .error "bad argument"

/-- The machine: the tables of each tool, and every state-changing command issued so far. -/
structure Host where
  tables : Text → Firewall
  issued : List PortForwardCommand := []

def Host.run (host : Host) (command : PortForwardCommand) : Host where
  tables := Function.update host.tables command.tool ((host.tables command.tool).run command.args)
  issued := host.issued ++ [command]

/-- The executor of a privileged agent on a machine with both tools. -/
def firewallExecutor (printer : Printer) : PortForwardExecutor Host where
  isToolAvailable _ host := (true, host)
  commandOutput command host := ((host.tables command.tool).list printer command.args, host)
  runCommand command host := (.ok (), host.run command)
  runningAsRoot _ := true

/-! ## Reading back -/

/-- What the tokenizer makes of a rule's fields: an empty comment disappears. -/
def readFields (fields : List Text) : List Text := fields.filter (!·.isEmpty)

theorem readFields_of_no_blank {fields : List Text} (h : [] ∉ fields) : readFields fields = fields := by
  refine List.filter_eq_self.2 fun field hf => ?_
  cases field with
  | nil => exact absurd hf h
  | cons => rfl

theorem foldl_push_plain (fields : List Text) : ∀ (s builder : Text),
    (∀ c ∈ s, isPlain c = true ∧ isWhite c = false) →
    s.foldl SpecParser.push ⟨fields, builder, none⟩ = ⟨fields, builder ++ s, none⟩
  | [], builder, _ => by simp
  | c :: s, builder, h => by
    obtain ⟨⟨hp, hw⟩, hs⟩ := List.forall_mem_cons.1 h
    have hquote : isQuote c = false := by
      simp only [isPlain, Bool.and_eq_true, decide_eq_true_eq] at hp
      simp only [isQuote, Bool.or_eq_false_iff, decide_eq_false_iff_not]
      exact ⟨hp.1.1.1.1.1, hp.1.1.1.1.2⟩
    have hspace : ¬(c = ' ' ∨ c = '\t') := by
      rintro (rfl | rfl)
      · exact absurd hw (by decide)
      · exact absurd hw (by decide)
    have hpush : SpecParser.push ⟨fields, builder, none⟩ c = ⟨fields, builder ++ [c], none⟩ := by
      simp only [SpecParser.push, hquote, Bool.false_eq_true, if_false, if_neg hspace]
    rw [List.foldl_cons, hpush, foldl_push_plain fields s _ hs]
    simp

/-- Inside quotes every plain character is kept, white space too. -/
theorem foldl_push_quoted (fields : List Text) : ∀ (s builder : Text), (∀ c ∈ s, isPlain c = true) →
    s.foldl SpecParser.push ⟨fields, builder, some '"'⟩ = ⟨fields, builder ++ s, some '"'⟩
  | [], builder, _ => by simp
  | c :: s, builder, h => by
    obtain ⟨hp, hs⟩ := List.forall_mem_cons.1 h
    have hne : c ≠ '"' := by
      rintro rfl
      exact absurd hp (by decide)
    have hpush : SpecParser.push ⟨fields, builder, some '"'⟩ c = ⟨fields, builder ++ [c], some '"'⟩ := by
      simp only [SpecParser.push, if_neg hne]
    rw [List.foldl_cons, hpush, foldl_push_quoted fields s _ hs]
    simp

/-- A field printed without quotes is a word. -/
theorem isWord_of_unquoted {printer : Printer} {afterComment : Bool} {field : Text}
    (h : (if afterComment then field.all isPlain else isWord field) = true)
    (hq : ¬(afterComment && printer.quotes field) = true) : isWord field = true := by
  cases afterComment with
  | false => simpa using h
  | true =>
    have hnq : needsQuotes field = false := by
      cases hn : needsQuotes field with
      | false => rfl
      | true => exact absurd (printer.quotes_needed field hn) (by simpa using hq)
    simp only [needsQuotes, Bool.or_eq_false_iff, List.any_eq_false, List.isEmpty_eq_false_iff] at hnq
    rw [isWord_iff]
    refine ⟨hnq.1, fun c hc => ?_⟩
    exact ⟨List.all_eq_true.1 (by simpa using h) c hc, by simpa using hnq.2 c hc⟩

theorem plain_of_quoted {printer : Printer} {afterComment : Bool} {field : Text}
    (h : (if afterComment then field.all isPlain else isWord field) = true)
    (hq : (afterComment && printer.quotes field) = true) : ∀ c ∈ field, isPlain c = true := by
  rw [Bool.and_eq_true] at hq
  rw [hq.1] at h
  simpa using h

theorem foldl_push_token (printer : Printer) {afterComment : Bool} {field : Text} (fields : List Text)
    (h : (if afterComment then field.all isPlain else isWord field) = true) :
    (printer.token afterComment field).foldl SpecParser.push ⟨fields, [], none⟩ = ⟨fields, field, none⟩ := by
  unfold Printer.token
  by_cases hq : (afterComment && printer.quotes field) = true
  · rw [if_pos hq, List.cons_append, List.foldl_cons, List.foldl_append]
    rw [show SpecParser.push ⟨fields, [], none⟩ '"' = ⟨fields, [], some '"'⟩ from rfl]
    rw [foldl_push_quoted fields field _ (plain_of_quoted h hq)]
    rfl
  · rw [if_neg hq, foldl_push_plain fields field _ (isWord_iff.1 (isWord_of_unquoted h hq)).2]
    rfl

/-- A printed token ends in a visible character and holds no newline. -/
theorem token_spec (printer : Printer) {afterComment : Bool} {field : Text}
    (h : (if afterComment then field.all isPlain else isWord field) = true) :
    '\n' ∉ printer.token afterComment field ∧
    ∃ c, (printer.token afterComment field).getLast? = some c ∧ isWhite c = false := by
  unfold Printer.token
  by_cases hq : (afterComment && printer.quotes field) = true
  · rw [if_pos hq]
    have hn : '\n' ∉ field := not_mem_of_isPlain (plain_of_quoted h hq) (by decide)
    refine ⟨?_, '"', by rw [List.getLast?_append]; rfl, by decide⟩
    simp only [List.mem_append, List.mem_cons, List.not_mem_nil, or_false]
    rintro ((hc | hc) | hc)
    · exact absurd hc (by decide)
    · exact hn hc
    · exact absurd hc (by decide)
  · rw [if_neg hq]
    obtain ⟨hne, hdark⟩ := isWord_iff.1 (isWord_of_unquoted h hq)
    refine ⟨not_mem_of_isPlain (fun c hc => (hdark c hc).1) (by decide), field.getLast hne,
      List.getLast?_eq_some_getLast hne, (hdark _ (List.getLast_mem hne)).2⟩

theorem tokens_spec (printer : Printer) : ∀ (fields : List Text) (afterComment : Bool),
    wellFormedFrom afterComment fields = true → ∀ token ∈ printer.tokens afterComment fields,
      '\n' ∉ token ∧ ∃ c, token.getLast? = some c ∧ isWhite c = false
  | [], _, _ => by simp [Printer.tokens]
  | field :: rest, afterComment, h => by
    rw [wellFormedFrom, Bool.and_eq_true] at h
    exact List.forall_mem_cons.2 ⟨token_spec printer h.1, tokens_spec printer rest _ h.2⟩

/-- The tokenizer on a printed rule, from any fields read before. -/
theorem finish_tokens (printer : Printer) : ∀ (rest : List Text) (afterComment : Bool) (field : Text)
    (fields : List Text), wellFormedFrom afterComment (field :: rest) = true →
    ((join [' '] (printer.tokens afterComment (field :: rest))).foldl SpecParser.push ⟨fields, [], none⟩).finish =
      fields ++ readFields (field :: rest)
  | [], afterComment, field, fields, h => by
    simp only [wellFormedFrom, Bool.and_true] at h
    simp only [Printer.tokens, join, List.intercalate_singleton]
    rw [foldl_push_token printer fields h]
    cases field <;> simp [SpecParser.finish, readFields]
  | next :: rest, afterComment, field, fields, h => by
    have hfield : (if afterComment then field.all isPlain else isWord field) = true := by
      rw [wellFormedFrom, Bool.and_eq_true] at h
      exact h.1
    have hrest : wellFormedFrom (!afterComment && field = "--comment") (next :: rest) = true := by
      rw [wellFormedFrom, Bool.and_eq_true] at h
      exact h.2
    have hjoin : join [' '] (printer.tokens afterComment (field :: next :: rest)) =
        printer.token afterComment field ++
          ' ' :: join [' '] (printer.tokens (!afterComment && field = "--comment") (next :: rest)) := by
      simp [Printer.tokens, join, List.intercalate_cons_cons]
    rw [hjoin, List.foldl_append, foldl_push_token printer fields hfield, List.foldl_cons]
    cases field with
    | nil =>
      rw [show SpecParser.push ⟨fields, [], none⟩ ' ' = ⟨fields, [], none⟩ from rfl]
      rw [finish_tokens printer rest _ next fields hrest]
      simp [readFields]
    | cons c cs =>
      rw [show SpecParser.push ⟨fields, c :: cs, none⟩ ' ' = ⟨fields ++ [c :: cs], [], none⟩ from rfl]
      rw [finish_tokens printer rest _ next _ hrest]
      simp [readFields]

theorem wellFormedFrom_insertImplied : ∀ (fields : List Text) (afterComment : Bool),
    wellFormedFrom afterComment fields = true → wellFormedFrom afterComment (insertImplied fields) = true
  | [], _, h => h
  | [_], _, h => h
  | a :: b :: rest, afterComment, h => by
    rw [insertImplied]
    split
    · rename_i hcond
      have hb : isWord b = true ∧ b ≠ "--comment" := by
        rcases hcond.2 with rfl | rfl <;> decide
      have ha : ¬a = "--comment" := by
        rw [hcond.1]
        decide
      have hm : isWord "-m" = true ∧ ¬("-m" : Text) = "--comment" := by decide
      simp only [wellFormedFrom, ha, hb.1, hb.2, hm.1, hm.2, decide_false, Bool.and_false, Bool.false_eq_true,
        if_false, Bool.and_eq_true, true_and] at h ⊢
      exact h
    · rw [wellFormedFrom, Bool.and_eq_true] at h ⊢
      exact ⟨h.1, wellFormedFrom_insertImplied (b :: rest) _ h.2⟩

theorem wellFormed_printed (printer : Printer) {rule : FwRule} (h : RuleOk rule) :
    wellFormedFrom false (printer.printed rule) = true := by
  unfold Printer.printed
  split
  · exact wellFormedFrom_insertImplied rule false h.wellFormed
  · exact h.wellFormed

section

variable (printer : Printer) {chain : Text} (hchain : isWord chain = true) (hname : chain ≠ "--comment")
include hchain hname

theorem wellFormed_row {rule : FwRule} (h : RuleOk rule) :
    wellFormedFrom false ("-A" :: chain :: printer.printed rule) = true := by
  have hhead : ¬("-A" : Text) = "--comment" := by decide
  simp only [wellFormedFrom, hchain, hname, hhead, decide_false, Bool.and_false, Bool.false_eq_true, if_false,
    Bool.and_eq_true, true_and]
  exact ⟨by decide, wellFormed_printed printer h⟩

omit hchain in
theorem printRule_eq {rule : FwRule} :
    printer.printRule chain rule = join [' '] (printer.tokens false ("-A" :: chain :: printer.printed rule)) := by
  have hhead : ¬("-A" : Text) = "--comment" := by decide
  simp only [Printer.printRule, Printer.tokens, Printer.token, hname, hhead, decide_false, Bool.and_false,
    Bool.false_and, Bool.false_eq_true, if_false]

/-- **Round trip**: the agent reads a printed rule's fields back, less an empty comment. -/
theorem read_printRule {rule : FwRule} (h : RuleOk rule) :
    parseIptablesSpec (trim (printer.printRule chain rule)) =
      ("-A" : Text) :: chain :: readFields (printer.printed rule) := by
  have hwf := wellFormed_row printer hchain hname h
  have hne : chain ≠ [] := (isWord_iff.1 hchain).1
  have htrim : trim (printer.printRule chain rule) = printer.printRule chain rule := by
    refine trim_eq_self ?_ ?_
    · intro c hc
      have hdash : (printer.printRule chain rule).head? = some '-' := by
        simp [Printer.printRule, join, List.intercalate_cons_cons]
      rw [hdash] at hc
      cases hc
      decide
    · intro c hc
      rw [printRule_eq printer hname] at hc
      obtain ⟨d, hd, hdark⟩ := getLast?_join [' '] _ (by simp [Printer.tokens])
        fun token ht => (tokens_spec printer _ false hwf token ht).2
      rw [hd] at hc
      cases hc
      exact hdark
  rw [htrim, printRule_eq printer hname, parseIptablesSpec]
  rw [show ({} : SpecParser) = ⟨[], [], none⟩ from rfl, finish_tokens printer _ _ _ _ hwf]
  cases chain with
  | nil => exact absurd rfl hne
  | cons c cs => simp [readFields]

theorem printRule_line {rule : FwRule} (h : RuleOk rule) :
    '\n' ∉ printer.printRule chain rule ∧ (printer.printRule chain rule).getLast? ≠ some '\r' := by
  have hwf := wellFormed_row printer hchain hname h
  rw [printRule_eq printer hname]
  refine ⟨not_mem_join (by decide) _ fun token ht => (tokens_spec printer _ false hwf token ht).1, ?_⟩
  obtain ⟨c, hc, hdark⟩ := getLast?_join [' '] _ (by simp [Printer.tokens])
    fun token ht => (tokens_spec printer _ false hwf token ht).2
  rw [hc]
  rintro ⟨⟩
  exact absurd hdark (by decide)

end

/-! ## Reading a chain -/

theorem flatMap_newline : ∀ (xs : List Text), xs.flatMap (· ++ ['\n']) = join ['\n'] (xs ++ [[]])
  | [] => rfl
  | [x] => by simp [join]
  | x :: y :: xs => by
    have ih := flatMap_newline (y :: xs)
    simp only [List.flatMap_cons, List.cons_append, join, List.intercalate_cons_cons] at ih ⊢
    rw [ih]

/-- `str::lines` on newline-terminated lines. -/
theorem lines_flatMap {xs : List Text} (h : ∀ x ∈ xs, '\n' ∉ x ∧ x.getLast? ≠ some '\r') :
    lines (xs.flatMap (· ++ ['\n'])) = xs := by
  have hsplit : splitOn '\n' (join ['\n'] (xs ++ [[]])) = xs ++ [[]] := by
    refine splitOn_join _ _ (by simp) fun part hp => ?_
    rcases List.mem_append.1 hp with hp | hp
    · exact (h part hp).1
    · rw [List.mem_singleton.1 hp]
      simp
  have hmap : xs.map (fun line => if line.getLast? = some '\r' then line.dropLast else line) = xs := by
    conv => rhs; rw [← List.map_id xs]
    exact List.map_congr_left fun x hx => if_neg (h x hx).2
  unfold lines
  rw [flatMap_newline, hsplit]
  simp [hmap]

end KeliNode
