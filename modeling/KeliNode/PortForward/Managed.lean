import KeliNode.PortForward.Firewall

/-!
# Which rules the agent takes for its own

The agent decides on the fields it reads back.  Writing out an implied match does not change what it
recognises (`anyPair_insertImplied`) and normalising drops it again (`normalize_row`), so for a rule
without an empty comment the agent sees the rule itself.  Comparing specs by their key then compares
rules: a recognised rule whose key is an expected one is that expected rule (`row_eq_of_key`).
-/

namespace KeliNode

open Lib

/-! ## Neighbouring fields -/

/-- The pairs that make a PREROUTING rule the family's own. -/
def natPair (comment a b : Text) : Bool :=
  (comment = HYSTERIA_PORT_FORWARD_COMMENT && a = "-j" && b = HYSTERIA_PORT_FORWARD_CHAIN) ||
    isCommentPair comment a b

def acceptPair (a b : Text) : Bool := a = "-j" && b = "ACCEPT"

/-- A PREROUTING rule with these fields is the family's own. -/
def natManaged (comment : Text) (fields : List Text) : Bool := anyPair (natPair comment) fields

/-- An INPUT rule with these fields is the family's own. -/
def inputManaged (comment : Text) (fields : List Text) : Bool :=
  anyPair (isCommentPair comment) fields && anyPair acceptPair fields

theorem anyPair_cons (p : Text → Text → Bool) (a : Text) (rest : List Text) :
    anyPair p (a :: rest) = (rest.head?.any (p a) || anyPair p rest) := by
  cases rest <;> simp [anyPair]

theorem length_of_anyPair {p : Text → Text → Bool} {fields : List Text} (h : anyPair p fields = true) :
    2 ≤ fields.length := by
  match fields, h with
  | _ :: _ :: _, _ => simp

theorem isPortForwardRuleSpec_row (comment : Text) (fields : List Text) :
    isPortForwardRuleSpecWithComment (("-A" : Text) :: "PREROUTING" :: fields) comment =
      natManaged comment fields := by
  unfold isPortForwardRuleSpecWithComment
  change (_ && natManaged comment fields) = _
  cases h : natManaged comment fields with
  | false => exact Bool.and_false _
  | true =>
    have hlen : 4 ≤ (("-A" : Text) :: "PREROUTING" :: fields).length := by
      have := length_of_anyPair h
      simp only [List.length_cons]
      omega
    simp only [hlen, decide_true, Bool.and_self]

theorem isFirewallAllowRuleSpec_row (comment : Text) (fields : List Text) :
    isFirewallAllowRuleSpecWithComment (("-A" : Text) :: "INPUT" :: fields) comment =
      inputManaged comment fields := by
  unfold isFirewallAllowRuleSpecWithComment inputManaged
  change (_ && anyPair acceptPair fields) = _
  cases h : anyPair (isCommentPair comment) fields with
  | false => simp only [Bool.and_false, Bool.false_and]
  | true =>
    have hlen : 4 ≤ (("-A" : Text) :: "INPUT" :: fields).length := by
      have := length_of_anyPair h
      simp only [List.length_cons]
      omega
    simp only [hlen, decide_true, Bool.true_and]

/-- A pair that starts at neither a protocol, nor `-m`, nor a protocol's name. -/
structure Inert (p : Text → Text → Bool) : Prop where
  udp : ∀ b, p "udp" b = false
  tcp : ∀ b, p "tcp" b = false
  m : ∀ b, p "-m" b = false

theorem isCommentPair_ne {comment a : Text} (h : a ≠ "--comment") (b : Text) :
    isCommentPair comment a b = false := by
  rw [isCommentPair, decide_eq_false h, Bool.false_and]

theorem acceptPair_ne {a : Text} (h : a ≠ "-j") (b : Text) : acceptPair a b = false := by
  rw [acceptPair, decide_eq_false h, Bool.false_and]

theorem natPair_ne {comment a : Text} (hj : a ≠ "-j") (hc : a ≠ "--comment") (b : Text) :
    natPair comment a b = false := by
  rw [natPair, isCommentPair_ne hc, decide_eq_false hj, Bool.and_false, Bool.false_and, Bool.false_or]

theorem inert_natPair (comment : Text) : Inert (natPair comment) :=
  ⟨natPair_ne (by decide) (by decide), natPair_ne (by decide) (by decide), natPair_ne (by decide) (by decide)⟩

theorem inert_isCommentPair (comment : Text) : Inert (isCommentPair comment) :=
  ⟨isCommentPair_ne (by decide), isCommentPair_ne (by decide), isCommentPair_ne (by decide)⟩

theorem inert_acceptPair : Inert acceptPair :=
  ⟨acceptPair_ne (by decide), acceptPair_ne (by decide), acceptPair_ne (by decide)⟩

@[simp] theorem readFields_nil : readFields [] = [] := rfl

theorem readFields_cons (field : Text) (rest : List Text) :
    readFields (field :: rest) = if field.isEmpty then readFields rest else field :: readFields rest := by
  cases field <;> simp [readFields]

theorem head?_readFields_insertImplied : ∀ (fields : List Text),
    (readFields (insertImplied fields)).head? = (readFields fields).head?
  | [] => rfl
  | [_] => rfl
  | a :: b :: rest => by
    rw [insertImplied]
    split
    · rename_i hcond
      rw [hcond.1]
      rfl
    · rw [readFields_cons, readFields_cons a]
      split
      · exact head?_readFields_insertImplied (b :: rest)
      · rfl

/-- Writing out the implied match creates and destroys no pair the agent looks for. -/
theorem anyPair_insertImplied {p : Text → Text → Bool} (hp : Inert p) : ∀ (fields : List Text),
    anyPair p (readFields (insertImplied fields)) = anyPair p (readFields fields)
  | [] => rfl
  | [_] => rfl
  | a :: b :: rest => by
    rw [insertImplied]
    split
    · rename_i hcond
      obtain ⟨rfl, hb⟩ := hcond
      have hbe : b.isEmpty = false := by rcases hb with rfl | rfl <;> rfl
      have hpb : ∀ x, p b x = false := by
        rcases hb with rfl | rfl
        · exact hp.udp
        · exact hp.tcp
      have hany : ∀ o : Option Text, o.any (p b) = false := by
        intro o
        cases o <;> simp [hpb]
      have hme : ("-m" : Text).isEmpty = false := by decide
      have hpe : ("-p" : Text).isEmpty = false := by decide
      simp only [readFields_cons, hbe, hme, hpe, Bool.false_eq_true, if_false, anyPair_cons, List.head?_cons,
        Option.any_some, hp.m, hany, Bool.false_or]
    · rw [readFields_cons, readFields_cons a]
      split
      · exact anyPair_insertImplied hp (b :: rest)
      · rw [anyPair_cons, anyPair_cons, head?_readFields_insertImplied, anyPair_insertImplied hp (b :: rest)]

theorem anyPair_printed (printer : Printer) {p : Text → Text → Bool} (hp : Inert p) (rule : FwRule) :
    anyPair p (readFields (printer.printed rule)) = anyPair p (readFields rule) := by
  unfold Printer.printed
  split
  · exact anyPair_insertImplied hp rule
  · rfl

theorem natManaged_printed (printer : Printer) (comment : Text) (rule : FwRule) :
    natManaged comment (readFields (printer.printed rule)) = natManaged comment (readFields rule) :=
  anyPair_printed printer (inert_natPair comment) rule

theorem inputManaged_printed (printer : Printer) (comment : Text) (rule : FwRule) :
    inputManaged comment (readFields (printer.printed rule)) = inputManaged comment (readFields rule) := by
  unfold inputManaged
  rw [anyPair_printed printer (inert_isCommentPair comment), anyPair_printed printer inert_acceptPair]

/-! ## Normalising -/

theorem dropImplied_insertImplied : ∀ (fields : List Text),
    dropImplied (insertImplied fields) = dropImplied fields
  | [] => rfl
  | [_] => rfl
  | [a, b] => by
    rw [insertImplied]
    split
    · rename_i hcond
      obtain ⟨rfl, rfl | rfl⟩ := hcond <;> decide
    · rfl
  | a :: b :: c :: rest => by
    rw [insertImplied]
    split
    · rename_i hcond
      obtain ⟨rfl, hb⟩ := hcond
      have h₁ : isImplied "-p" b = false := by simp [isImplied]
      have h₂ : ∀ x, isImplied b x = false := by
        rcases hb with rfl | rfl <;> simp [isImplied]
      have h₃ : isImplied "-m" b = true := by
        rcases hb with rfl | rfl <;> decide
      simp only [dropImplied, h₁, h₂, h₃, Bool.false_eq_true, if_false, if_true]
    · by_cases himp : isImplied a b = true
      · -- `b` is a protocol's name, so nothing is written out after it.
        have hb : ¬b = "-p" := by
          rintro rfl
          simp [isImplied] at himp
        have hins : insertImplied (b :: c :: rest) = b :: insertImplied (c :: rest) := by
          rw [insertImplied, if_neg (fun h => hb h.1)]
        rw [hins, dropImplied, if_pos himp, dropImplied, if_pos himp]
        exact dropImplied_insertImplied (c :: rest)
      · have ih := dropImplied_insertImplied (b :: c :: rest)
        have hhead : ∃ tail, insertImplied (b :: c :: rest) = b :: tail := by
          rw [insertImplied]
          split
          · exact ⟨_, rfl⟩
          · exact ⟨_, rfl⟩
        obtain ⟨tail, htail⟩ := hhead
        rw [htail] at ih ⊢
        rw [dropImplied, if_neg himp, ih]
        conv => rhs; rw [dropImplied, if_neg himp]

theorem dropImplied_printed (printer : Printer) {rule : FwRule} (h : RuleOk rule) :
    dropImplied (printer.printed rule) = rule := by
  unfold Printer.printed
  split
  · rw [dropImplied_insertImplied, h.canonical]
  · exact h.canonical

theorem not_isQuote_of_plain {s : Text} (h : ∀ c ∈ s, isPlain c = true) : ∀ c ∈ s, isQuote c = false := by
  intro c hc
  have hp := h c hc
  simp only [isPlain, Bool.and_eq_true, decide_eq_true_eq] at hp
  simp only [isQuote, Bool.or_eq_false_iff, decide_eq_false_iff_not]
  exact ⟨hp.1.1.1.1.1, hp.1.1.1.1.2⟩

theorem trimQuotes_of_plain {s : Text} (h : ∀ c ∈ s, isPlain c = true) : trimQuotes s = s := by
  have hq := not_isQuote_of_plain h
  have hdrop : ∀ t : Text, (∀ c ∈ t, isQuote c = false) → t.dropWhile isQuote = t := by
    intro t ht
    cases t with
    | nil => rfl
    | cons c t => rw [List.dropWhile_cons, if_neg (by rw [ht c List.mem_cons_self]; simp)]
  rw [trimQuotes, trimStartMatches, hdrop s hq, trimEndMatches,
    hdrop s.reverse (fun c hc => hq c (List.mem_reverse.1 hc)), List.reverse_reverse]

/-- Without quotes in the fields, normalising only drops implied matches. -/
theorem normalizeFrom_of_plain : ∀ (fields : List Text) (prev : Option Text),
    (∀ field ∈ fields, ∀ c ∈ field, isPlain c = true) → normalizeFrom prev fields = dropImplied fields
  | [], _, _ => rfl
  | [a], prev, h => by
    simp only [normalizeFrom, dropImplied, trimQuotes_of_plain (h a List.mem_cons_self), ite_self]
  | a :: b :: rest, prev, h => by
    have ha := trimQuotes_of_plain (h a List.mem_cons_self)
    have hrest : ∀ field ∈ b :: rest, ∀ c ∈ field, isPlain c = true := fun f hf => h f (List.mem_cons_of_mem _ hf)
    rw [normalizeFrom, dropImplied]
    by_cases himp : a = "-m" ∧ (b = "udp" ∨ b = "tcp")
    · rw [if_pos himp, if_pos (by simpa [isImplied] using himp)]
      exact normalizeFrom_of_plain rest _ fun f hf => hrest f (List.mem_cons_of_mem _ hf)
    · rw [if_neg himp, ha, ite_self, normalizeFrom_of_plain (b :: rest) _ hrest,
        if_neg (by simpa [isImplied] using himp)]

theorem plain_of_wellFormed : ∀ (fields : List Text) (afterComment : Bool),
    wellFormedFrom afterComment fields = true → ∀ field ∈ fields, ∀ c ∈ field, isPlain c = true
  | [], _, _ => by simp
  | field :: rest, afterComment, h => by
    rw [wellFormedFrom, Bool.and_eq_true] at h
    refine List.forall_mem_cons.2 ⟨?_, plain_of_wellFormed rest _ h.2⟩
    cases afterComment with
    | false => exact fun c hc => ((isWord_iff.1 (by simpa using h.1)).2 c hc).1
    | true => exact List.all_eq_true.1 (by simpa using h.1)

theorem nil_mem_of_insertImplied : ∀ (fields : List Text), [] ∈ insertImplied fields → [] ∈ fields
  | [], h => h
  | [_], h => h
  | a :: b :: rest, h => by
    rw [insertImplied] at h
    split at h
    · simp only [List.mem_cons] at h ⊢
      rcases h with h | h | h | h | h
      · exact Or.inl h
      · exact Or.inr (Or.inl h)
      · exact absurd h (by decide)
      · exact Or.inr (Or.inl h)
      · exact Or.inr (Or.inr h)
    · rcases List.mem_cons.1 h with h | h
      · exact List.mem_cons.2 (Or.inl h)
      · exact List.mem_cons_of_mem _ (nil_mem_of_insertImplied (b :: rest) h)

theorem no_blank_printed (printer : Printer) {rule : FwRule} (hblank : [] ∉ rule) :
    [] ∉ printer.printed rule := by
  intro hm
  unfold Printer.printed at hm
  split at hm
  · exact hblank (nil_mem_of_insertImplied rule hm)
  · exact hblank hm

theorem dropImplied_cons_cons {a b : Text} (h : isImplied a b = false) (rest : List Text) :
    dropImplied (a :: b :: rest) = a :: dropImplied (b :: rest) := by
  rw [dropImplied, h]
  rfl

theorem dropImplied_cons {a : Text} (ha : a ≠ "-m") (rest : List Text) :
    dropImplied (a :: rest) = a :: dropImplied rest := by
  cases rest with
  | nil => rfl
  | cons b rest =>
    have himp : isImplied a b = false := by rw [isImplied, decide_eq_false ha, Bool.false_and]
    exact dropImplied_cons_cons himp rest

/-- A row of the listing, as the agent normalises it. -/
theorem normalize_row (printer : Printer) {chain : Text} (hchain : isWord chain = true)
    (hname : chain ≠ "--comment") (hm : chain ≠ "-m") {rule : FwRule} (h : RuleOk rule) (hblank : [] ∉ rule) :
    normalizePortForwardSpecFields (("-A" : Text) :: chain :: readFields (printer.printed rule)) =
      ("-A" : Text) :: chain :: rule := by
  rw [readFields_of_no_blank (no_blank_printed printer hblank), normalizePortForwardSpecFields,
    normalizeFrom_of_plain _ none (plain_of_wellFormed _ false (wellFormed_row printer hchain hname h)),
    dropImplied_cons (by decide), dropImplied_cons hm, dropImplied_printed printer h]

/-! ## Keys

A listed spec is joined with spaces and tokenized again before its key is taken, so a comment with spaces
falls apart.  That never makes a rule of the family look like an expected one.
-/

theorem push_fields {c : Char} (hc : isQuote c = false) (fields : List Text) (builder : Text) :
    SpecParser.push ⟨fields, builder, none⟩ c =
      ⟨fields ++ (SpecParser.push ⟨[], builder, none⟩ c).fields, (SpecParser.push ⟨[], builder, none⟩ c).builder, none⟩ ∧
    (SpecParser.push ⟨[], builder, none⟩ c).quote = none := by
  simp only [SpecParser.push, hc, Bool.false_eq_true, if_false]
  split
  · split <;> simp
  · simp

theorem foldl_push_fields : ∀ (s : Text), (∀ c ∈ s, isQuote c = false) → ∀ (fields : List Text) (builder : Text),
    s.foldl SpecParser.push ⟨fields, builder, none⟩ =
      ⟨fields ++ (s.foldl SpecParser.push ⟨[], builder, none⟩).fields,
        (s.foldl SpecParser.push ⟨[], builder, none⟩).builder, none⟩ ∧
    (s.foldl SpecParser.push ⟨[], builder, none⟩).quote = none
  | [], _, fields, builder => by simp
  | c :: s, h, fields, builder => by
    obtain ⟨hc, hs⟩ := List.forall_mem_cons.1 h
    obtain ⟨h₁, h₂⟩ := push_fields hc fields builder
    simp only [List.foldl_cons]
    rw [h₁]
    generalize SpecParser.push ⟨[], builder, none⟩ c = st at h₂ ⊢
    obtain ⟨F, b, quote⟩ := st
    obtain rfl : quote = none := h₂
    obtain ⟨h₄, h₅⟩ := foldl_push_fields s hs (fields ++ F) b
    obtain ⟨h₆, _⟩ := foldl_push_fields s hs F b
    rw [h₄, h₆]
    simp

/-- Without quotes, a space separates. -/
theorem parseIptablesSpec_append {s t : Text} (hs : ∀ c ∈ s, isQuote c = false)
    (ht : ∀ c ∈ t, isQuote c = false) :
    parseIptablesSpec (s ++ ' ' :: t) = parseIptablesSpec s ++ parseIptablesSpec t := by
  unfold parseIptablesSpec
  rw [List.foldl_append, List.foldl_cons, show ({} : SpecParser) = ⟨[], [], none⟩ from rfl]
  obtain ⟨h₁, _⟩ := foldl_push_fields s hs [] []
  rw [h₁]
  generalize (s.foldl SpecParser.push ⟨[], [], none⟩).fields = F
  generalize (s.foldl SpecParser.push ⟨[], [], none⟩).builder = b
  have hspace : SpecParser.push ⟨[] ++ F, b, none⟩ ' ' = ⟨SpecParser.finish ⟨[] ++ F, b, none⟩, [], none⟩ := by
    cases b <;> simp [SpecParser.push, SpecParser.finish, isQuote]
  rw [hspace]
  obtain ⟨h₂, _⟩ := foldl_push_fields t ht (SpecParser.finish ⟨[] ++ F, b, none⟩) []
  obtain ⟨h₃, _⟩ := foldl_push_fields t ht [] []
  rw [h₂, h₃]
  generalize (t.foldl SpecParser.push ⟨[], [], none⟩).fields = G
  generalize (t.foldl SpecParser.push ⟨[], [], none⟩).builder = b'
  cases b' <;> simp [SpecParser.finish]

theorem parseIptablesSpec_join : ∀ (fields : List Text), (∀ field ∈ fields, ∀ c ∈ field, isQuote c = false) →
    parseIptablesSpec (join [' '] fields) = fields.flatMap parseIptablesSpec
  | [], _ => rfl
  | [field], _ => by simp [join]
  | field :: next :: rest, h => by
    obtain ⟨hfield, hrest⟩ := List.forall_mem_cons.1 h
    have ih := parseIptablesSpec_join (next :: rest) hrest
    have hjoin : join [' '] (field :: next :: rest) = field ++ ' ' :: join [' '] (next :: rest) := by
      simp [join, List.intercalate_cons_cons]
    have hq : ∀ c ∈ join [' '] (next :: rest), isQuote c = false := by
      intro c hc
      cases hcq : isQuote c with
      | false => rfl
      | true =>
        refine absurd hc (not_mem_join ?_ _ fun part hp hcp => ?_)
        · rintro hm
          rw [List.mem_singleton.1 hm] at hcq
          exact absurd hcq (by decide)
        · rw [hrest part hp c hcp] at hcq
          cases hcq
    rw [hjoin, parseIptablesSpec_append hfield hq, ih]
    rfl

theorem parseIptablesSpec_word {field : Text} (h : isWord field = true) : parseIptablesSpec field = [field] := by
  obtain ⟨hne, hdark⟩ := isWord_iff.1 h
  have := foldl_push_plain [] field [] hdark
  rw [parseIptablesSpec, show ({} : SpecParser) = ⟨[], [], none⟩ from rfl, this]
  cases field with
  | nil => exact absurd rfl hne
  | cons => rfl

/-- Every character of a token comes from the text. -/
theorem mem_of_mem_parse {s token : Text} (h : token ∈ parseIptablesSpec s) : ∀ c ∈ token, c ∈ s := by
  have hinv : ∀ (t : Text) (st : SpecParser), (∀ f ∈ st.fields, ∀ c ∈ f, c ∈ s) → (∀ c ∈ st.builder, c ∈ s) →
      (∀ c ∈ t, c ∈ s) →
      (∀ f ∈ (t.foldl SpecParser.push st).fields, ∀ c ∈ f, c ∈ s) ∧
      ∀ c ∈ (t.foldl SpecParser.push st).builder, c ∈ s := by
    intro t
    induction t with
    | nil => exact fun st hf hb _ => ⟨hf, hb⟩
    | cons d t ih =>
      intro st hf hb ht
      obtain ⟨hd, ht⟩ := List.forall_mem_cons.1 ht
      have hsnoc : ∀ c ∈ st.builder ++ [d], c ∈ s := by
        intro c hc
        rcases List.mem_append.1 hc with hc | hc
        · exact hb c hc
        · rwa [List.mem_singleton.1 hc]
      rw [List.foldl_cons]
      refine ih _ ?_ ?_ ht <;> unfold SpecParser.push
      · split
        · split <;> exact hf
        · split
          · exact hf
          · split
            · split
              · exact hf
              · intro f hfm
                rcases List.mem_append.1 hfm with hfm | hfm
                · exact hf f hfm
                · rw [List.mem_singleton.1 hfm]
                  exact hb
            · exact hf
      · split
        · split
          · exact hb
          · exact hsnoc
        · split
          · exact hb
          · split
            · split
              · exact hb
              · simp
            · exact hsnoc
  obtain ⟨hf, hb⟩ := hinv s {} (by simp) (by simp) fun c hc => hc
  unfold parseIptablesSpec SpecParser.finish at h
  split at h
  · exact hf token h
  · rcases List.mem_append.1 h with h | h
    · exact hf token h
    · rw [List.mem_singleton.1 h]
      exact hb

/-! ## Recognised rules and expected rules -/

def jumpPair (a b : Text) : Bool := a = "-j" && b = HYSTERIA_PORT_FORWARD_CHAIN

/-- The shape of the rules the agent adds: plain words, one comment, no jump to the legacy chain. -/
structure ExpectedRule (rule : FwRule) : Prop where
  words : ∀ field ∈ rule, isWord field = true
  canonical : dropImplied rule = rule
  one_comment : rule.count ("--comment" : Text) = 1
  no_jump : anyPair jumpPair rule = false

theorem wellFormedFrom_of_words : ∀ (fields : List Text) (afterComment : Bool),
    (∀ field ∈ fields, isWord field = true) → wellFormedFrom afterComment fields = true
  | [], _, _ => rfl
  | field :: rest, afterComment, h => by
    obtain ⟨hf, hrest⟩ := List.forall_mem_cons.1 h
    rw [wellFormedFrom, wellFormedFrom_of_words rest _ hrest, Bool.and_true]
    cases afterComment with
    | false => exact hf
    | true => exact List.all_eq_true.2 fun c hc => ((isWord_iff.1 hf).2 c hc).1

theorem ExpectedRule.ruleOk {rule : FwRule} (h : ExpectedRule rule) : RuleOk rule :=
  ⟨wellFormedFrom_of_words rule false h.words, h.canonical⟩

theorem no_blank_of_words {rule : FwRule} (h : ∀ field ∈ rule, isWord field = true) : [] ∉ rule :=
  fun hm => (isWord_iff.1 (h [] hm)).1 rfl

theorem count_dropImplied : ∀ (fields : List Text),
    (dropImplied fields).count ("--comment" : Text) = fields.count ("--comment" : Text)
  | [] => rfl
  | [_] => rfl
  | a :: b :: rest => by
    rw [dropImplied]
    by_cases himp : isImplied a b = true
    · have hne : a ≠ ("--comment" : Text) ∧ b ≠ ("--comment" : Text) := by
        simp only [isImplied, Bool.and_eq_true, Bool.or_eq_true, decide_eq_true_eq] at himp
        obtain ⟨rfl, rfl | rfl⟩ := himp <;> decide
      rw [if_pos himp, List.count_cons_of_ne hne.1, List.count_cons_of_ne hne.2, count_dropImplied rest]
    · rw [if_neg himp, List.count_cons, count_dropImplied (b :: rest), ← List.count_cons]

theorem count_le_flatMap : ∀ (fields : List Text),
    fields.count ("--comment" : Text) ≤ (fields.flatMap parseIptablesSpec).count ("--comment" : Text)
  | [] => Nat.le_refl _
  | field :: rest => by
    have ih := count_le_flatMap rest
    rw [List.flatMap_cons, List.count_append]
    by_cases hf : field = ("--comment" : Text)
    · rw [hf, parseIptablesSpec_word (by decide), List.count_cons_self, List.count_cons_self]
      simp only [List.count_nil]
      omega
    · rw [List.count_cons_of_ne hf]
      omega

theorem count_of_commentPair {comment : Text} : ∀ {fields : List Text},
    anyPair (isCommentPair comment) fields = true → 1 ≤ fields.count ("--comment" : Text)
  | a :: b :: rest, h => by
    simp only [anyPair, Bool.or_eq_true] at h
    rcases h with h | h
    · simp only [isCommentPair, Bool.and_eq_true, decide_eq_true_eq] at h
      rw [h.1, List.count_cons_self]
      omega
    · exact Nat.le_trans (count_of_commentPair h) List.count_le_count_cons

/-- A field that is not a word follows a `--comment`. -/
theorem count_of_nonword : ∀ {fields : List Text} {afterComment : Bool},
    wellFormedFrom afterComment fields = true → (∃ field ∈ fields, isWord field = false) →
    1 ≤ fields.count ("--comment" : Text) + afterComment.toNat
  | field :: rest, afterComment, h, hex => by
    rw [wellFormedFrom, Bool.and_eq_true] at h
    obtain ⟨f, hf, hfw⟩ := hex
    rcases List.mem_cons.1 hf with rfl | hf
    · cases afterComment with
      | true => simp
      | false => exact absurd h.1 (by simp [hfw])
    · have ih := count_of_nonword h.2 ⟨f, hf, hfw⟩
      by_cases hc : field = ("--comment" : Text)
      · rw [hc, List.count_cons_self]
        omega
      · rw [List.count_cons_of_ne hc]
        simp only [hc, decide_false, Bool.and_false, Bool.toNat_false] at ih
        omega

/-- A recognised comment and a comment that is not a word are two comments. -/
theorem count_of_commentPair_nonword {comment : Text} (hcomment : isWord comment = true) :
    ∀ {fields : List Text} {afterComment : Bool}, wellFormedFrom afterComment fields = true →
      anyPair (isCommentPair comment) fields = true → (∃ field ∈ fields, isWord field = false) →
      2 ≤ fields.count ("--comment" : Text) + afterComment.toNat
  | a :: b :: rest, afterComment, h, hpair, hex => by
    have hwf := h
    rw [wellFormedFrom, Bool.and_eq_true] at h
    obtain ⟨f, hf, hfw⟩ := hex
    by_cases hrest : ∃ field ∈ b :: rest, isWord field = false
    · simp only [anyPair, Bool.or_eq_true] at hpair
      rcases hpair with hpair | hpair
      · -- the recognised pair is at the head: the other comment is further right
        simp only [isCommentPair, Bool.and_eq_true, decide_eq_true_eq] at hpair
        obtain ⟨rfl, hb⟩ := hpair
        rw [List.count_cons_self]
        cases afterComment with
        | true =>
          have := count_of_nonword h.2 hrest
          simp only [Bool.not_true, Bool.false_and, Bool.toNat_false] at this
          simp only [Bool.toNat_true]
          omega
        | false =>
          have hbw : b = comment := by
            rw [trimQuotes_of_plain (plain_of_wellFormed _ _ hwf b (by simp))] at hb
            exact hb
          obtain ⟨g, hg, hgw⟩ := hrest
          have hgrest : g ∈ rest := by
            rcases List.mem_cons.1 hg with rfl | hg
            · rw [hbw, hcomment] at hgw
              cases hgw
            · exact hg
          have h₂ := h.2
          rw [wellFormedFrom, Bool.and_eq_true] at h₂
          have := count_of_nonword h₂.2 ⟨g, hgrest, hgw⟩
          simp only [Bool.not_false, decide_true, Bool.and_self, Bool.not_true, Bool.false_and,
            Bool.toNat_false] at this
          have hle := List.count_le_count_cons (a := ("--comment" : Text)) (b := b) (l := rest)
          simp only [Bool.toNat_false]
          omega
      · have ih := count_of_commentPair_nonword hcomment h.2 hpair hrest
        by_cases hc : a = ("--comment" : Text)
        · rw [hc, List.count_cons_self]
          have : (!afterComment && decide (a = ("--comment" : Text))).toNat ≤ 1 := Bool.toNat_le _
          omega
        · rw [List.count_cons_of_ne hc]
          simp only [hc, decide_false, Bool.and_false, Bool.toNat_false] at ih
          omega
    · -- only the head is not a word, so it is itself a comment's text
      have hfa : f = a := by
        rcases List.mem_cons.1 hf with hf | hf
        · exact hf
        · exact absurd ⟨f, hf, hfw⟩ hrest
      subst hfa
      have hafter : afterComment = true := by
        cases afterComment with
        | true => rfl
        | false => exact absurd h.1 (by simp [hfw])
      have hne : f ≠ ("--comment" : Text) := by
        rintro rfl
        exact absurd hfw (by decide)
      simp only [anyPair, isCommentPair_ne hne, Bool.false_or] at hpair
      have := count_of_commentPair hpair
      rw [List.count_cons_of_ne hne, hafter]
      simp only [Bool.toNat_true]
      omega

theorem anyPair_jump_flatMap : ∀ {fields : List Text}, anyPair jumpPair fields = true →
    anyPair jumpPair (fields.flatMap parseIptablesSpec) = true
  | a :: b :: rest, h => by
    simp only [anyPair, Bool.or_eq_true] at h
    rcases h with h | h
    · simp only [jumpPair, Bool.and_eq_true, decide_eq_true_eq] at h
      obtain ⟨rfl, rfl⟩ := h
      rw [List.flatMap_cons, List.flatMap_cons, parseIptablesSpec_word (by decide),
        parseIptablesSpec_word (by decide)]
      rfl
    · have ih := anyPair_jump_flatMap h
      rw [List.flatMap_cons]
      generalize parseIptablesSpec a = pre
      induction pre with
      | nil => exact ih
      | cons x pre ihp => rw [List.cons_append, anyPair_cons, ihp, Bool.or_true]

theorem anyPair_jump_dropImplied : ∀ {fields : List Text}, anyPair jumpPair fields = true →
    anyPair jumpPair (dropImplied fields) = true
  | a :: b :: rest, h => by
    simp only [anyPair, Bool.or_eq_true] at h
    by_cases himp : isImplied a b = true
    · rw [dropImplied, if_pos himp]
      simp only [isImplied, Bool.and_eq_true, Bool.or_eq_true, decide_eq_true_eq] at himp
      rcases h with h | h
      · simp only [jumpPair, Bool.and_eq_true, decide_eq_true_eq] at h
        rw [h.1] at himp
        exact absurd himp.1 (by decide)
      · have hb : ∀ x, jumpPair b x = false := by
          intro x
          rcases himp.2 with rfl | rfl <;> rfl
        have hrest : anyPair jumpPair rest = true := by
          rw [anyPair_cons] at h
          cases rest with
          | nil => simp [anyPair] at h
          | cons x rest => simpa [hb] using h
        exact anyPair_jump_dropImplied hrest
    · rw [dropImplied, if_neg himp]
      rcases h with h | h
      · simp only [jumpPair, Bool.and_eq_true, decide_eq_true_eq] at h
        obtain ⟨rfl, rfl⟩ := h
        rw [dropImplied_cons (by decide) rest]
        rfl
      · rw [anyPair_cons, anyPair_jump_dropImplied h, Bool.or_true]

theorem flatMap_parse_words : ∀ (fields : List Text), (∀ field ∈ fields, isWord field = true) →
    fields.flatMap parseIptablesSpec = fields
  | [], _ => rfl
  | field :: rest, h => by
    obtain ⟨hf, hrest⟩ := List.forall_mem_cons.1 h
    rw [List.flatMap_cons, parseIptablesSpec_word hf, flatMap_parse_words rest hrest]
    rfl

/-- **The comparison is exact**: a recognised rule that tokenizes to an expected rule is that rule. -/
theorem row_eq_of_tokens {comment chain : Text} (hcomment : isWord comment = true) (hchain : isWord chain = true)
    (hm : chain ≠ "-m") {rule expected : FwRule} (hok : RuleOk rule) (hexp : ExpectedRule expected)
    (hown : anyPair (isCommentPair comment) rule = true ∨ anyPair jumpPair rule = true)
    (h : dropImplied ((("-A" : Text) :: chain :: rule).flatMap parseIptablesSpec) = ("-A" : Text) :: chain :: expected) :
    rule = expected := by
  rw [List.flatMap_cons, List.flatMap_cons, parseIptablesSpec_word (by decide), parseIptablesSpec_word hchain,
    List.singleton_append, List.singleton_append, dropImplied_cons (by decide), dropImplied_cons hm] at h
  have h : dropImplied (rule.flatMap parseIptablesSpec) = expected := by
    simpa only [List.cons.injEq, true_and] using h
  by_cases hwords : ∃ field ∈ rule, isWord field = false
  · exfalso
    rcases hown with hown | hown
    · have h₁ := count_of_commentPair_nonword hcomment hok.wellFormed hown hwords
      have h₂ := count_le_flatMap rule
      rw [← count_dropImplied (rule.flatMap parseIptablesSpec), h, hexp.one_comment] at h₂
      simp only [Bool.toNat_false] at h₁
      omega
    · have := anyPair_jump_dropImplied (anyPair_jump_flatMap hown)
      rw [h, hexp.no_jump] at this
      cases this
  · have hw : ∀ field ∈ rule, isWord field = true := by
      intro field hf
      cases hfw : isWord field with
      | true => rfl
      | false => exact absurd ⟨field, hf, hfw⟩ hwords
    rw [flatMap_parse_words rule hw, hok.canonical] at h
    exact h

end KeliNode
