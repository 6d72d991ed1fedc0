import KeliNode.Upgrade.Manager

/-!
# Panel strings in the upgrade script

Every value that the panel sends is one quoted word, so whatever it is, the shell reads the script as the same commands
with that value assigned (`upgrade_script_tokens`).  Started by hand, the script is one quoted word once more, and the
inner shell reads it unchanged (`upgrade_quoting`).
-/

namespace KeliNode

open Lib Shell

/-- `set -eu`, the first line. -/
def setTokens : List Token := [.word [.active 's', .active 'e', .active 't'], .word [.active '-', .active 'e', .active 'u'], .newline]

/-- `sleep 1;`, in front of a script that is started by hand. -/
def sleepTokens : List Token :=
  [.word [.active 's', .active 'l', .active 'e', .active 'e', .active 'p'], .word [.active '1'], .operator [';']]

def assignmentTokens (assigned : List (Text × Text)) : List Token :=
  assigned.flatMap fun entry => [.word (assignmentPieces entry.1 entry.2), .newline]

/-- The script as the shell reads it: `front`, `set -eu`, the assignments, and then the lines that are always the same. -/
def ReadsAs (script : Text) (front : List Token) (assigned : List (Text × Text)) : Prop :=
  ∃ template, tokens (join "\n" upgradeLines) = some template ∧
    tokens script = some (front ++ setTokens ++ assignmentTokens assigned ++ template) ∧
    (assignmentTokens assigned).filterMap Token.assignment = assigned

section

variable {assigned : List (Text × Text)} {targetVersion : Text} {spec : ReleaseUpgradeSpec} {source : ReleaseSource}

theorem shellQuote_eq (value : Text) : shellQuote value = singleQuoted value := rfl

theorem upgradeLines_ne_nil : upgradeLines ≠ [] := List.append_ne_nil_of_right_ne_nil _ (List.cons_ne_nil _ _)

/-- Behind the line the shell is between two commands, and may stop there. -/
def isComplete (line : Text) : Bool := (Lexer.run {} (line ++ ['\n'])).2 = {} && (Lexer.run {} line).2.finish.isSome

/-! ## Line by line -/

theorem tokens_join_cons {line : Text} {lines : List Text} {left : List Token} (hlines : lines ≠ [])
    (h : Lexes {} (line ++ ['\n']) left {}) :
    tokens (join "\n" (line :: lines)) = (tokens (join "\n" lines)).map (left ++ ·) := by
  obtain ⟨next, rest, rfl⟩ := List.exists_cons_of_ne_nil hlines
  have hjoin : join "\n" (line :: next :: rest) = (line ++ ['\n']) ++ join "\n" (next :: rest) := by
    rw [join, List.intercalate_cons_cons]
    rfl
  rw [hjoin, tokens, tokensFrom_append h]
  rfl

theorem tokens_complete {lines : List Text} (hlines : lines ≠ []) (h : ∀ line ∈ lines, isComplete line = true) :
    ∃ read, tokens (join "\n" lines) = some read := by
  induction lines with
  | nil => exact absurd rfl hlines
  | cons line rest ih =>
    rw [List.forall_mem_cons] at h
    obtain ⟨hline, hrest⟩ := h
    rw [isComplete, Bool.and_eq_true, decide_eq_true_eq, Option.isSome_iff_exists] at hline
    by_cases hlast : rest = []
    · obtain ⟨last, hfinish⟩ := hline.2
      have hjoin : join "\n" [line] = line := List.intercalate_singleton
      exact ⟨_, by rw [hlast, hjoin, tokens, tokensFrom, hfinish, Option.map_some]⟩
    · obtain ⟨read, hread⟩ := ih hlast hrest
      have hlexes : Lexes {} (line ++ ['\n']) (Lexer.run {} (line ++ ['\n'])).1 {} := Prod.ext rfl hline.1
      exact ⟨_, by rw [tokens_join_cons hlast hlexes, hread, Option.map_some]⟩

/-! ## Assignments -/

def upgradeNames : List Text :=
  ["target_version", "component", "binary_name", "asset_prefix", "manifest_url", "archive_url", "install_dir",
    "service_name"]

theorem upgradeVariables_names : (upgradeVariables targetVersion spec source).map Prod.fst = upgradeNames := rfl

theorem isName_of_mem_upgradeVariables {entry : Text × Text} (h : entry ∈ upgradeVariables targetVersion spec source) :
    isName entry.1 = true := by
  have hnames : upgradeNames.all isName = true := by decide
  have hmem := List.mem_map_of_mem (f := Prod.fst) h
  rw [upgradeVariables_names] at hmem
  exact List.all_eq_true.1 hnames _ hmem

theorem lexes_assignmentLine {entry : Text × Text} (h : isName entry.1 = true) :
    Lexes {} (assignmentLine entry ++ ['\n']) [.word (assignmentPieces entry.1 entry.2), .newline] {} := by
  rw [assignmentLine, shellQuote_eq]
  exact (lexes_assignment h entry.2).append lexes_newline

theorem tokens_assignments {lines : List Text} (hlines : lines ≠ []) (h : ∀ entry ∈ assigned, isName entry.1 = true) :
    tokens (join "\n" (assigned.map assignmentLine ++ lines)) =
      (tokens (join "\n" lines)).map (assignmentTokens assigned ++ ·) := by
  induction assigned with
  | nil => exact Option.map_id'.symm
  | cons entry rest ih =>
    rw [List.forall_mem_cons] at h
    rw [List.map_cons, List.cons_append,
      tokens_join_cons (List.append_ne_nil_of_right_ne_nil _ hlines) (lexes_assignmentLine h.1), ih h.2, Option.map_map]
    rfl

theorem assignment_assignmentTokens (h : ∀ entry ∈ assigned, isName entry.1 = true) :
    (assignmentTokens assigned).filterMap Token.assignment = assigned := by
  induction assigned with
  | nil => rfl
  | cons entry rest ih =>
    rw [List.forall_mem_cons] at h
    have hcons : assignmentTokens (entry :: rest) =
        .word (assignmentPieces entry.1 entry.2) :: .newline :: assignmentTokens rest := rfl
    rw [hcons, List.filterMap_cons_some (assignment_of_pieces h.1 _), List.filterMap_cons_none rfl, ih h.2]

/-! ## Starting it -/

/-- The plan hands the script to a shell of the service manager. -/
def RunsUnderSystemd (plan : UpgradeLaunchPlan) (script : Text) : Prop :=
  plan.command = "systemd-run" ∧ ∃ options, plan.args = options ++ (["/bin/sh", "-c", script] : List Text)

/-- `nohup /bin/sh -c`, as words. -/
def nohupTokens : List Token :=
  [.word (("nohup" : Text).map .active), .word (("/bin/sh" : Text).map .active), .word (("-c" : Text).map .active)]

/-- `2>&1 &`, in the same way. -/
def backgroundTokens : List Token :=
  [.ioNumber [.active '2'], .operator ['>', '&'], .word [.active '1'], .operator ['&']]

/-- The plan has a shell start another one in the background, which reads one word of it; what that one prints goes to the
log. -/
def RunsDetached (plan : UpgradeLaunchPlan) (script : Text) : Prop :=
  plan.command = "/bin/sh" ∧ ∃ outer quoted log, plan.args = (["-c", outer] : List Text) ∧
    tokens outer = some (nohupTokens ++ .word quoted :: .operator ['>'] :: .word log :: backgroundTokens) ∧
    literalValue quoted = some script ∧ literalValue log = plan.logPath

theorem isUnitChar_sanitizeUnitChars {value output : Text} {c : Char}
    (houtput : ∀ d ∈ output, d.isAlphanum = true ∨ d = '_' ∨ d = '.' ∨ d = '-') (h : c ∈ sanitizeUnitChars output value) :
    c.isAlphanum = true ∨ c = '_' ∨ c = '.' ∨ c = '-' := by
  induction value generalizing output with
  | nil => exact houtput c h
  | cons first rest ih =>
    rw [sanitizeUnitChars] at h
    split at h
    · rename_i hfirst
      refine ih (fun d hd => ?_) h
      rcases List.mem_append.1 hd with hd | hd
      · exact houtput d hd
      · rw [List.mem_singleton.1 hd]
        simpa [or_assoc] using hfirst
    · split at h
      · refine ih (fun d hd => ?_) h
        rcases List.mem_append.1 hd with hd | hd
        · exact houtput d hd
        · exact .inr (.inr (.inr (List.mem_singleton.1 hd)))
      · exact ih houtput h

/-- A character that a word keeps as it is. -/
def isQuiet (c : Char) : Bool := isOrdinary c && !isExpansion c

theorem isQuiet_of_isUnitChar {c : Char} (h : c.isAlphanum = true ∨ c = '_' ∨ c = '.' ∨ c = '-') : isQuiet c = true := by
  have hloud : (specialChars ++ ['*', '?', '[', '~']).all (fun d => !(d.isAlphanum || d = '_' || d = '.' || d = '-')) = true := by
    decide
  by_contra hquiet
  have hmem : c ∈ specialChars ++ ['*', '?', '[', '~'] := by
    rw [isQuiet, Bool.and_eq_true, not_and_or, isOrdinary, isExpansion] at hquiet
    rcases hquiet with hspecial | hexpansion
    · exact List.mem_append_left _ (by simpa using hspecial)
    · simp only [Bool.not_eq_true', Bool.not_eq_false, Bool.or_eq_true, decide_eq_true_eq, or_assoc] at hexpansion
      rcases hexpansion with rfl | rfl | rfl | rfl | rfl | rfl <;> decide
  have hc := List.all_eq_true.1 hloud c hmem
  simp only [Bool.not_eq_true', Bool.or_eq_false_iff, decide_eq_false_iff_not] at hc
  rcases h with h | h | h | h
  · rw [h] at hc
    exact absurd hc.1.1.1 (by decide)
  · exact hc.1.1.2 h
  · exact hc.1.2 h
  · exact hc.2 h

theorem isQuiet_sanitizeSystemdUnitPart (value : Text) : ∀ c ∈ sanitizeSystemdUnitPart value, isQuiet c = true := by
  intro c hc
  rw [sanitizeSystemdUnitPart, firstNonEmpty] at hc
  split at hc
  · have hlatest : ("latest" : Text).all isQuiet = true := by decide
    exact List.all_eq_true.1 hlatest c hc
  · exact isQuiet_of_isUnitChar (isUnitChar_sanitizeUnitChars (by simp) (mem_of_mem_trimMatches hc))

/-- The log file of a release. -/
def logFile (spec : ReleaseUpgradeSpec) : Text :=
  join "/" [[], "tmp", join "-" [sanitizeSystemdUnitPart spec.name, "self-update.log"]]

theorem forall_mem_join {P : Char → Prop} {sep : Text} {parts : List Text} (hsep : ∀ c ∈ sep, P c)
    (hparts : ∀ part ∈ parts, ∀ c ∈ part, P c) : ∀ c ∈ join sep parts, P c := by
  intro c hc
  by_contra hnot
  exact not_mem_join (fun h => hnot (hsep c h)) parts (fun part hpart h => hnot (hparts part hpart c h)) hc

theorem isQuiet_logFile (spec : ReleaseUpgradeSpec) : ∀ c ∈ logFile spec, isQuiet c = true := by
  have hquiet : ∀ text : Text, text.all isQuiet = true → ∀ c ∈ text, isQuiet c = true := fun _ => List.all_eq_true.1
  have htail : ∀ c ∈ join "-" [sanitizeSystemdUnitPart spec.name, "self-update.log"], isQuiet c = true :=
    forall_mem_join (hquiet "-" (by decide)) (List.forall_mem_cons.2 ⟨isQuiet_sanitizeSystemdUnitPart _,
      List.forall_mem_cons.2 ⟨hquiet "self-update.log" (by decide), List.forall_mem_nil _⟩⟩)
  exact forall_mem_join (hquiet "/" (by decide)) (List.forall_mem_cons.2 ⟨List.forall_mem_nil _,
    List.forall_mem_cons.2 ⟨hquiet "tmp" (by decide), List.forall_mem_cons.2 ⟨htail, List.forall_mem_nil _⟩⟩⟩)

/-- The line of the outer shell, in its pieces. -/
theorem detached_eq (quoted log : Text) :
    join " " ["nohup", "/bin/sh", "-c", quoted, '>' :: log, "2>&1", "&"] =
      (("nohup" : Text) ++ ' ' :: ("/bin/sh" : Text) ++ ' ' :: ("-c" : Text) ++ [' ']) ++
        (quoted ++ ([' '] ++ (['>'] ++ (log ++ ([' '] ++ ("2>&1" : Text) ++ ' ' :: ("&" : Text)))))) := by
  simp [join, List.intercalate_cons_cons]

theorem tokens_detached (value : Text) {log : Text} (hlog : ∀ c ∈ log, isQuiet c = true) (hne : log ≠ []) :
    tokens (join " " ["nohup", "/bin/sh", "-c", shellQuote value, '>' :: log, "2>&1", "&"]) =
      some (nohupTokens ++ .word (value.map .literal) :: .operator ['>'] :: .word (log.map .active) :: backgroundTokens) := by
  have hordinary : ∀ c ∈ log, isOrdinary c = true := fun c hc => (Bool.and_eq_true_iff.1 (hlog c hc)).1
  have hfront : Lexes {} (("nohup" : Text) ++ ' ' :: ("/bin/sh" : Text) ++ ' ' :: ("-c" : Text) ++ [' ']) nohupTokens {} := by
    rw [Lexes]
    decide
  have hback : Lexes (inWord (log.map .active)) ([' '] ++ ("2>&1" : Text) ++ ' ' :: ("&" : Text))
      (.word (log.map .active) :: [.ioNumber [.active '2'], .operator ['>', '&'], .word [.active '1']]) (inOperator ['&']) := by
    have hrest : Lexes {} (("2>&1" : Text) ++ ' ' :: ("&" : Text))
        [.ioNumber [.active '2'], .operator ['>', '&'], .word [.active '1']] (inOperator ['&']) := by
      rw [Lexes]
      decide
    exact lexes_space.append hrest
  have hgreater : Lexes {} ['>'] [] (inOperator ['>']) := rfl
  rw [detached_eq, shellQuote_eq]
  have hall := hfront.append ((lexes_singleQuoted_start value).append (lexes_space.append (hgreater.append
    ((lexes_ordinary_operator hne hordinary).append hback))))
  rw [tokens_of_lexes hall rfl]
  rfl

theorem logFile_ne_nil (spec : ReleaseUpgradeSpec) : logFile spec ≠ [] := by
  rw [logFile, join, List.intercalate_cons_cons]
  simp

theorem runsUnderSystemd {toolExists : Text → Bool} (h : toolExists "systemd-run" = true) :
    RunsUnderSystemd (releaseUpgradeLaunchPlanWithSource toolExists targetVersion spec source)
      (releaseUpgradeShellScriptWithSource (trim targetVersion) spec source) := by
  simp only [releaseUpgradeLaunchPlanWithSource, h, if_true]
  exact ⟨rfl, [_, _, _], rfl⟩

theorem runsDetached {toolExists : Text → Bool} (h : toolExists "systemd-run" = false) :
    RunsDetached (releaseUpgradeLaunchPlanWithSource toolExists targetVersion spec source)
      (join " " ["sleep", "1;", releaseUpgradeShellScriptWithSource (trim targetVersion) spec source]) := by
  have hquiet := isQuiet_logFile spec
  have hlog : literalValue ((logFile spec).map .active) = some (logFile spec) := by
    apply literalValue_active
    intro c hc
    have hc := hquiet c hc
    rw [isQuiet, Bool.and_eq_true, Bool.not_eq_true'] at hc
    exact hc.2
  simp only [releaseUpgradeLaunchPlanWithSource, h, Bool.false_eq_true, if_false]
  exact ⟨rfl, _, _, _, rfl, tokens_detached _ hquiet (logFile_ne_nil spec), literalValue_literal _, hlog⟩

/-! ## The whole script -/

theorem upgradeLines_complete : ∀ line ∈ upgradeLines, isComplete line = true := by
  rw [← List.all_eq_true]
  delta upgradeLines workLines toolLines fetchLines installLines
  repeat rw [String.toList_ofList]
  decide +kernel

/-- The script is the template with the values of the command. -/
theorem upgrade_script_tokens (front : Text) {frontTokens : List Token} (hfront : Lexes {} front frontTokens {}) :
    ReadsAs (front ++ releaseUpgradeShellScriptWithSource targetVersion spec source) frontTokens
      (upgradeVariables targetVersion spec source) := by
  have hnames : ∀ entry ∈ upgradeVariables targetVersion spec source, isName entry.1 = true :=
    fun _ => isName_of_mem_upgradeVariables
  have hset : Lexes {} (("set -eu" : Text) ++ ['\n']) setTokens {} := by
    rw [Lexes]
    decide
  obtain ⟨template, htemplate⟩ := tokens_complete upgradeLines_ne_nil upgradeLines_complete
  refine ⟨template, htemplate, ?_, assignment_assignmentTokens hnames⟩
  have hscript : tokens (releaseUpgradeShellScriptWithSource targetVersion spec source) =
      some (setTokens ++ (assignmentTokens (upgradeVariables targetVersion spec source) ++ template)) := by
    rw [releaseUpgradeShellScriptWithSource, List.cons_append,
      tokens_join_cons (List.append_ne_nil_of_right_ne_nil _ upgradeLines_ne_nil) hset,
      tokens_assignments upgradeLines_ne_nil hnames, htemplate]
    rfl
  rw [tokens, tokensFrom_append hfront, ← tokens, hscript]
  simp

end

/-- **Quoting**: a quoted value is one word, the value; so what a launched plan runs is the template, with every variable
assigned the string that is meant, whether the service manager starts it or a shell does. -/
theorem upgrade_quoting :
    (∀ value, words (shellQuote value) = some [value]) ∧
    ∀ (toolExists : Text → Bool) (manager : UpgradeManager) (call : UpgradeCall) (plan : UpgradeLaunchPlan),
      (manager.request toolExists call).launched = some plan → ∃ component, call.Valid component ∧
        (toolExists "systemd-run" = true → ∃ script, RunsUnderSystemd plan script ∧
          ReadsAs script [] (upgradeVariables (trim call.command.targetVersion) component.releaseSpec
            (.fromCommand call.command))) ∧
        (toolExists "systemd-run" = false → ∃ script, RunsDetached plan script ∧
          ReadsAs script sleepTokens (upgradeVariables (trim call.command.targetVersion) component.releaseSpec
            (.fromCommand call.command))) := by
  refine ⟨fun value => by rw [shellQuote_eq, words_singleQuoted], ?_⟩
  intro toolExists manager call plan hlaunched
  obtain ⟨component, hvalid, -, -, rfl⟩ := launched_eq_some.1 hlaunched
  refine ⟨component, hvalid, fun htool => ?_, fun htool => ?_⟩
  · refine ⟨_, runsUnderSystemd htool, ?_⟩
    have hscript := @upgrade_script_tokens (trim call.command.targetVersion) component.releaseSpec
      (.fromCommand call.command) [] _ Lexes.nil
    rw [List.nil_append] at hscript
    rw [trim_trim]
    exact hscript
  · refine ⟨_, runsDetached htool, ?_⟩
    have hsleep : Lexes {} ("sleep 1; " : Text) sleepTokens {} := by
      rw [Lexes]
      decide
    have hjoin : ∀ script : Text, join " " ["sleep", "1;", script] = ("sleep 1; " : Text) ++ script := by
      simp [join, List.intercalate_cons_cons]
    rw [trim_trim, hjoin]
    exact upgrade_script_tokens _ hsleep

/-! ## A hostile panel -/

/-- The base URL tries to close the quotes. -/
def hostileCall : UpgradeCall where
  command := { id := "1", targetVersion := "v1", releaseBaseUrl := "https://x/'; rm -rf / #$(id)" }
  currentVersion := "v0"
  now := 0
  launch := fun _ => .ok ()

theorem hostile_launched :
    (UpgradeManager.request (fun _ => false) {} hostileCall).launched = some (hostileCall.plan (fun _ => false) .node) := by
  refine launched_eq_some.2 ⟨.node, ⟨by decide, by decide, by decide⟩, rfl, ?_, rfl⟩
  exact fun h => absurd h.2 (by decide)

/-- The base URL is a value. -/
theorem upgrade_quoting_hostile : ∃ script, RunsDetached (hostileCall.plan (fun _ => false) .node) script ∧
    ReadsAs script sleepTokens (upgradeVariables (trim hostileCall.command.targetVersion) .nativeNode
      (.fromCommand hostileCall.command)) := by
  obtain ⟨component, hvalid, -, hdetached⟩ := upgrade_quoting.2 (fun _ => false) {} hostileCall _ hostile_launched
  have hnode : UpgradeComponent.fromCommandValue hostileCall.command.component = .ok .node := by decide
  obtain rfl := Except.ok.inj (hvalid.component.symm.trans hnode)
  exact hdetached rfl

end KeliNode
