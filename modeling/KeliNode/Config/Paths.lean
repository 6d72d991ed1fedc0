import KeliNode.Lib.PosixPath

/-!
# Directories of the configuration (`config.rs`)

`clean_posix_path` keeps a stack of components.  A double dot takes the last one off, unless that is a double dot
itself; at the bottom it is dropped from an absolute path and pushed on a relative one.  So the stack is always
double dots and then names (`Tidy`), and it leads where the components read so far lead (`cleanStep_tidy`,
`cleanParts_tidy`).

| here | there |
|---|---|
| `cleanPosixPath`, `cleanStep` | `config.rs:595`, its loop |
| `normalizeConfigDir`, `resolveNodeConfigDir` | `config.rs:455`, `:464` |
-/

namespace KeliNode

open Lib

/-- `DEFAULT_CONFIG_DIR` (`config.rs:6`). -/
def defaultConfigDir : Text := "/etc/kelinode"

/-- `path.replace('\\', "/")`. -/
def forwardSlashes (path : Text) : Text := path.map fun c => if c = '\\' then '/' else c

/-- One pass of the loop of `clean_posix_path`. -/
def cleanStep (absolute : Bool) (parts : List Text) (part : Text) : List Text :=
  if part = [] ∨ part = "." then parts
  else if part = ".." then
    if parts ≠ [] ∧ parts.getLast? ≠ some ((".." : String) : Text) then parts.dropLast
    else if !absolute then parts ++ [part]
    else parts
  else parts ++ [part]

/-- `clean_posix_path` (`config.rs:595`). -/
def cleanPosixPath (path : Text) : Text :=
  let path := forwardSlashes path
  let absolute := isAbsolute path
  let parts := (splitOn '/' path).foldl (cleanStep absolute) []
  if absolute then
    if parts = [] then "/" else "/" ++ join "/" parts
  else if parts = [] then "."
  else join "/" parts

/-- `normalize_config_dir` (`config.rs:455`). -/
def normalizeConfigDir (path : Text) : Text :=
  let path := trim path
  if path = [] then defaultConfigDir else cleanPosixPath path

/-- `join_posix_path` (`config.rs:571`). -/
def Config.joinPosixPath (root child : Text) : Text :=
  trimEndMatches (· = '/') root ++ "/" ++ trimStartMatches (· = '/') child

/-- `resolve_node_config_dir` (`config.rs:464`). -/
def resolveNodeConfigDir (baseDir overrideDir : Text) (nodeId : Nat) (multiNode : Bool) : Text :=
  if trim overrideDir ≠ [] then normalizeConfigDir overrideDir
  else
    let root := normalizeConfigDir baseDir
    if multiNode then Config.joinPosixPath root ("node-" ++ decimal nodeId) else root

/-! ## The stack -/

section

variable {absolute : Bool} {ups : Nat} {parts names : List Text} {part : Text}

theorem cleanStep_name (hpart : IsName part) : cleanStep absolute parts part = parts ++ [part] := by
  rw [cleanStep, if_neg (not_or.2 ⟨hpart.nonempty, hpart.notDot⟩), if_neg hpart.notUp]

/-- A double dot takes the last name off. -/
theorem cleanStep_up_names (h : Tidy absolute ups names) (hne : names ≠ []) :
    cleanStep absolute (tidyRow ups names) ".." = tidyRow ups names.dropLast := by
  have hlast : (tidyRow ups names).getLast? = some (names.getLast hne) := by
    rw [tidyRow, List.getLast?_append_of_ne_nil _ hne, List.getLast?_eq_some_getLast hne]
  have hup : (tidyRow ups names).getLast? ≠ some ((".." : String) : Text) := by
    rw [hlast]
    exact fun heq => (h.isName _ (List.getLast_mem hne)).notUp (Option.some.inj heq)
  have hrow : tidyRow ups names ≠ [] := List.append_ne_nil_of_right_ne_nil _ hne
  rw [cleanStep, if_neg (by decide), if_pos rfl, if_pos ⟨hrow, hup⟩, tidyRow, List.dropLast_append_of_ne_nil hne]
  rfl

/-- With no name left it is one more double dot, or nothing at the root. -/
theorem cleanStep_up_ups (absolute : Bool) (ups : Nat) :
    cleanStep absolute (tidyRow ups []) ".." = if absolute then tidyRow ups [] else tidyRow (ups + 1) [] := by
  have hlast : ¬(tidyRow ups [] ≠ [] ∧ (tidyRow ups []).getLast? ≠ some ((".." : String) : Text)) := by
    rintro ⟨hrow, hup⟩
    cases ups with
    | zero => exact hrow rfl
    | succ n =>
      apply hup
      rw [tidyRow, List.append_nil, List.replicate_succ', List.getLast?_append_of_ne_nil _ (by simp)]
      rfl
  rw [cleanStep, if_neg (by decide), if_pos rfl, if_neg hlast]
  cases absolute with
  | true => rfl
  | false =>
    simp only [Bool.not_false, if_true, Bool.false_eq_true, if_false]
    rw [tidyRow, tidyRow, List.append_nil, List.append_nil, List.replicate_succ']

/-- **Step lemma**: the stack stays tidy, and leads where its component leads from there. -/
theorem cleanStep_tidy (h : Tidy absolute ups names) (hpart : '/' ∉ part) :
    ∃ ups' names', Tidy absolute ups' names' ∧ cleanStep absolute (tidyRow ups names) part = tidyRow ups' names' ∧
      ∀ dir, (absolute = true → dir = []) →
        enterAll dir (tidyRow ups' names') = enter (enterAll dir (tidyRow ups names)) part := by
  by_cases hskip : part = [] ∨ part = "."
  · refine ⟨ups, names, h, by rw [cleanStep, if_pos hskip], fun dir _ => ?_⟩
    rw [enter, if_pos hskip]
  · by_cases hup : part = ".."
    · subst hup
      by_cases hne : names = []
      · subst hne
        cases absolute with
        | true =>
          obtain rfl := h.root rfl
          refine ⟨0, [], h, cleanStep_up_ups true 0, fun dir hdir => ?_⟩
          rw [hdir rfl]
          rfl
        | false =>
          refine ⟨ups + 1, [], ⟨fun ht => (Bool.false_ne_true ht).elim, h.isName⟩, cleanStep_up_ups false ups,
            fun dir _ => ?_⟩
          rw [tidyRow, tidyRow, List.append_nil, List.append_nil, List.replicate_succ', enterAll_append,
            enterAll_singleton]
      · have hdrop : Tidy absolute ups names.dropLast :=
          ⟨h.root, fun name hname => h.isName name ((List.dropLast_sublist names).subset hname)⟩
        refine ⟨ups, names.dropLast, hdrop, cleanStep_up_names h hne, fun dir _ => ?_⟩
        rw [enterAll_tidyRow hdrop, enterAll_tidyRow h, enter_up, List.dropLast_append_of_ne_nil hne]
    · have hname : IsName part := ⟨fun he => hskip (.inl he), fun he => hskip (.inr he), hup, hpart⟩
      have htidy : Tidy absolute ups (names ++ [part]) := by
        refine ⟨h.root, fun name hmem => ?_⟩
        rcases List.mem_append.1 hmem with hmem | hmem
        · exact h.isName name hmem
        · rw [List.mem_singleton.1 hmem]
          exact hname
      refine ⟨ups, names ++ [part], htidy, ?_, fun dir _ => ?_⟩
      · rw [cleanStep_name hname, tidyRow, tidyRow, List.append_assoc]
      · rw [enterAll_tidyRow htidy, enterAll_tidyRow h, enter_name hname, List.append_assoc]

/-- **Run lemma**: the stack behind any components. -/
theorem cleanParts_tidy (hparts : ∀ part ∈ parts, '/' ∉ part) (h : Tidy absolute ups names) :
    ∃ ups' names', Tidy absolute ups' names' ∧
      parts.foldl (cleanStep absolute) (tidyRow ups names) = tidyRow ups' names' ∧
      ∀ dir, (absolute = true → dir = []) →
        enterAll dir (tidyRow ups' names') = enterAll (enterAll dir (tidyRow ups names)) parts := by
  induction parts generalizing ups names with
  | nil => exact ⟨ups, names, h, rfl, fun dir _ => rfl⟩
  | cons part parts ih =>
    rw [List.forall_mem_cons] at hparts
    obtain ⟨ups₁, names₁, h₁, hstep, hlead⟩ := cleanStep_tidy h hparts.1
    obtain ⟨ups₂, names₂, h₂, hrun, hrest⟩ := ih hparts.2 h₁
    refine ⟨ups₂, names₂, h₂, by rw [List.foldl_cons, hstep, hrun], fun dir hdir => ?_⟩
    rw [hrest dir hdir, hlead dir hdir, enterAll_cons]

/-- Only components that were read are on the stack. -/
theorem mem_cleanParts {stack : List Text} (h : part ∈ parts.foldl (cleanStep absolute) stack) :
    part ∈ stack ∨ part ∈ parts := by
  induction parts generalizing stack with
  | nil => exact .inl h
  | cons next parts ih =>
    rw [List.mem_cons]
    rcases ih h with hstep | hrest
    · have hcases : part ∈ stack ∨ part = next := by
        unfold cleanStep at hstep
        split at hstep
        · exact .inl hstep
        · split at hstep
          · split at hstep
            · exact .inl ((List.dropLast_sublist stack).subset hstep)
            · split at hstep
              · simpa using hstep
              · exact .inl hstep
          · simpa using hstep
      rcases hcases with hmem | heq
      · exact .inl hmem
      · exact .inr (.inl heq)
    · exact .inr (.inr hrest)

/-- The components of a tidy row are pushed one after the other. -/
theorem cleanParts_tidyRow (h : Tidy absolute ups names) :
    (tidyRow ups names).foldl (cleanStep absolute) [] = tidyRow ups names := by
  have hups : ∀ n, (absolute = true → n = 0) →
      (List.replicate n ((".." : String) : Text)).foldl (cleanStep absolute) [] = tidyRow n [] := by
    intro n hn
    induction n with
    | zero => rfl
    | succ n ih =>
      cases absolute with
      | true => exact absurd (hn rfl) (Nat.succ_ne_zero n)
      | false =>
        rw [List.replicate_succ', List.foldl_append, ih fun ht => (Bool.false_ne_true ht).elim]
        exact cleanStep_up_ups false n
  have hnames : ∀ parts : List Text, names.foldl (cleanStep absolute) parts = parts ++ names := by
    have hisName := h.isName
    clear h
    induction names with
    | nil => exact fun parts => (List.append_nil parts).symm
    | cons name names ih =>
      intro parts
      rw [List.forall_mem_cons] at hisName
      rw [List.foldl_cons, cleanStep_name hisName.1, ih hisName.2, List.append_assoc]
      rfl
  rw [tidyRow, List.foldl_append, hups ups h.root, hnames, tidyRow, List.append_nil]

end

/-! ## Cleaning -/

theorem isAbsolute_forwardSlashes (path : Text) :
    isAbsolute (forwardSlashes path) = true ↔ path.head? = some '/' ∨ path.head? = some '\\' := by
  unfold isAbsolute forwardSlashes
  cases path with
  | nil => simp
  | cons c path =>
    by_cases hc : c = '\\'
    · simp [hc]
    · simp [hc]

theorem backslash_not_mem_forwardSlashes (path : Text) : '\\' ∉ forwardSlashes path := by
  intro hmem
  obtain ⟨c, _, hc⟩ := List.mem_map.1 hmem
  by_cases hb : c = '\\'
  · rw [if_pos hb] at hc
    exact absurd hc (by decide)
  · rw [if_neg hb] at hc
    exact hb hc

theorem forwardSlashes_eq_self {path : Text} (h : '\\' ∉ path) : forwardSlashes path = path := by
  have hid : ∀ c ∈ path, (if c = '\\' then '/' else c) = id c := by
    intro c hc
    apply if_neg
    rintro rfl
    exact h hc
  exact (List.map_congr_left hid).trans (List.map_id _)

/-- The cleaned path is the stack, printed. -/
theorem cleanPosixPath_eq (path : Text) : cleanPosixPath path =
    printPath (isAbsolute (forwardSlashes path))
      ((splitOn '/' (forwardSlashes path)).foldl (cleanStep (isAbsolute (forwardSlashes path))) []) := by
  unfold cleanPosixPath printPath
  by_cases habs : isAbsolute (forwardSlashes path) = true
  · simp only [habs, if_true]
    split
    · rename_i hnil
      rw [hnil]
      rfl
    · rfl
  · simp only [if_neg habs]

/-- What cleaning makes of a path: a tidy row, as absolute as the path, that leads where the path leads. -/
theorem cleanPosixPath_tidy (path : Text) :
    ∃ ups names, Tidy (isAbsolute (forwardSlashes path)) ups names ∧
      cleanPosixPath path = printPath (isAbsolute (forwardSlashes path)) (tidyRow ups names) ∧
      (∀ part ∈ tidyRow ups names, '\\' ∉ part) ∧
      ∀ dir, locate dir (cleanPosixPath path) = locate dir (forwardSlashes path) := by
  have hempty : Tidy (isAbsolute (forwardSlashes path)) 0 [] :=
    ⟨fun _ => rfl, fun name hname => absurd hname List.not_mem_nil⟩
  obtain ⟨ups, names, htidy, hrow, hlead⟩ :=
    @cleanParts_tidy _ _ (splitOn '/' (forwardSlashes path)) _ (fun part hpart => (part_of_mem_splitOn hpart).1) hempty
  have hclean : cleanPosixPath path = printPath (isAbsolute (forwardSlashes path)) (tidyRow ups names) := by
    rw [cleanPosixPath_eq, ← hrow]
    rfl
  refine ⟨ups, names, htidy, hclean, ?_, fun dir => ?_⟩
  · intro part hpart hback
    rw [← hrow] at hpart
    rcases mem_cleanParts hpart with hnil | hmem
    · exact absurd hnil List.not_mem_nil
    · exact backslash_not_mem_forwardSlashes path ((part_of_mem_splitOn hmem).2 hback)
  · rw [hclean, locate_printPath htidy, locate]
    apply hlead
    intro habs
    rw [if_pos habs]

/-- A printed row has no backslash if its components have none. -/
theorem backslash_not_mem_printPath {absolute : Bool} {parts : List Text} (h : ∀ part ∈ parts, '\\' ∉ part) :
    '\\' ∉ printPath absolute parts := by
  have hjoin : '\\' ∉ join "/" parts := not_mem_join (by decide) parts h
  unfold printPath
  split
  · exact fun hmem => (List.mem_cons.1 hmem).elim (by decide) hjoin
  · split
    · decide
    · exact hjoin

/-- A printed tidy row is clean. -/
theorem cleanPosixPath_printPath {absolute : Bool} {ups : Nat} {names : List Text} (h : Tidy absolute ups names)
    (hback : ∀ part ∈ tidyRow ups names, '\\' ∉ part) :
    cleanPosixPath (printPath absolute (tidyRow ups names)) = printPath absolute (tidyRow ups names) := by
  have habs := isAbsolute_printPath h
  have hrow : (splitOn '/' (printPath absolute (tidyRow ups names))).foldl (cleanStep absolute) [] =
      tidyRow ups names := by
    by_cases hne : tidyRow ups names = []
    · rw [hne]
      cases absolute <;> decide
    · have hparts := pathParts_printPath h hne
      rw [pathParts, habs] at hparts
      cases absolute with
      | true =>
        have hsplit : splitOn '/' (printPath true (tidyRow ups names)) = [] :: tidyRow ups names :=
          (splitOn_slash_cons _).trans (congrArg ([] :: ·) hparts)
        rw [hsplit, List.foldl_cons]
        exact cleanParts_tidyRow h
      | false =>
        rw [if_neg Bool.false_ne_true] at hparts
        rw [hparts, cleanParts_tidyRow h]
  rw [cleanPosixPath_eq, forwardSlashes_eq_self (backslash_not_mem_printPath hback), habs, hrow]

/-- **Cleaning is lexically correct**: idempotent, as absolute as the path, without empty or dot components, with
double dots only in front of a relative path, and leading where the path leads. -/
theorem cleanPosixPath_correct (path : Text) :
    cleanPosixPath (cleanPosixPath path) = cleanPosixPath path ∧
    (isAbsolute (cleanPosixPath path) = true ↔ path.head? = some '/' ∨ path.head? = some '\\') ∧
    (cleanPosixPath path = "/" ∨ cleanPosixPath path = "." ∨
      ∀ part ∈ pathParts (cleanPosixPath path), part ≠ [] ∧ part ≠ ".") ∧
    (∃ ups rest, pathParts (cleanPosixPath path) = List.replicate ups ((".." : String) : Text) ++ rest ∧
      ((".." : String) : Text) ∉ rest ∧ (isAbsolute (cleanPosixPath path) = true → ups = 0)) ∧
    ∀ dir, locate dir (cleanPosixPath path) = locate dir (forwardSlashes path) := by
  obtain ⟨ups, names, htidy, hclean, hback, hlocate⟩ := cleanPosixPath_tidy path
  refine ⟨?_, ?_, ?_, ?_, hlocate⟩
  · rw [hclean, cleanPosixPath_printPath htidy hback]
  · rw [hclean, isAbsolute_printPath htidy, isAbsolute_forwardSlashes]
  · rw [hclean]
    by_cases hne : tidyRow ups names = []
    · rw [hne]
      cases isAbsolute (forwardSlashes path) with
      | true => exact .inl rfl
      | false => exact .inr (.inl rfl)
    · refine .inr (.inr fun part hpart => ?_)
      rw [pathParts_printPath htidy hne] at hpart
      exact ⟨(part_of_mem_tidyRow htidy hpart).1, (part_of_mem_tidyRow htidy hpart).2.1⟩
  · rw [hclean, isAbsolute_printPath htidy]
    by_cases hne : tidyRow ups names = []
    · rw [hne]
      refine ⟨0, pathParts (printPath (isAbsolute (forwardSlashes path)) []), rfl, ?_, fun _ => rfl⟩
      cases isAbsolute (forwardSlashes path) <;> decide
    · rw [pathParts_printPath htidy hne]
      exact ⟨ups, names, rfl, fun hup => (htidy.isName _ hup).notUp rfl, htidy.root⟩

/-! ## The directory of a node -/

theorem cleanPosixPath_ne_nil (path : Text) : cleanPosixPath path ≠ [] := by
  obtain ⟨ups, names, htidy, hclean, _⟩ := cleanPosixPath_tidy path
  rw [hclean, printPath]
  split
  · exact List.cons_ne_nil _ _
  · split
    · decide
    · rename_i hne
      obtain ⟨first, rest, hrow⟩ := List.exists_cons_of_ne_nil hne
      have hfirst := (part_of_mem_tidyRow htidy (hrow ▸ List.mem_cons_self : first ∈ tidyRow ups names)).1
      rw [hrow]
      cases rest with
      | nil => simpa [join] using hfirst
      | cons next rest => simp [join]

theorem normalizeConfigDir_ne_nil (path : Text) : normalizeConfigDir path ≠ [] := by
  by_cases h : trim path = []
  · simp only [normalizeConfigDir, h, if_true]
    decide
  · simp only [normalizeConfigDir, h, if_false]
    exact cleanPosixPath_ne_nil _

theorem normalizeConfigDir_end (path : Text) :
    normalizeConfigDir path = "/" ∨ ∃ c, (normalizeConfigDir path).getLast? = some c ∧ c ≠ '/' := by
  by_cases h : trim path = []
  · have hdefault : normalizeConfigDir path = defaultConfigDir := if_pos h
    rw [hdefault]
    exact .inr ⟨'e', by decide, by decide⟩
  · have hclean : normalizeConfigDir path = cleanPosixPath (trim path) := if_neg h
    obtain ⟨ups, names, htidy, hprint, -⟩ := cleanPosixPath_tidy (trim path)
    rw [hclean, hprint]
    exact printPath_end htidy

theorem isName_node (nodeId : Nat) : IsName (("node-" : Text) ++ decimal nodeId) := by
  refine ⟨by simp, by simp, by simp, ?_⟩
  rw [List.mem_append, not_or]
  exact ⟨by decide, not_mem_decimal (by decide) nodeId⟩

/-- With several nodes and no directory of its own, a node's directory is an entry of the base directory. -/
theorem locate_resolveNodeConfigDir (baseDir : Text) {overrideDir : Text} (hoverride : trim overrideDir = [])
    (nodeId : Nat) (dir : List Text) :
    locate dir (resolveNodeConfigDir baseDir overrideDir nodeId true) =
      locate dir (normalizeConfigDir baseDir) ++ [("node-" : Text) ++ decimal nodeId] := by
  have hname := isName_node nodeId
  have hjoin : Config.joinPosixPath (normalizeConfigDir baseDir) ("node-" ++ decimal nodeId) =
      trimEndMatches (· = '/') (normalizeConfigDir baseDir) ++ "/" ++ (("node-" : Text) ++ decimal nodeId) := rfl
  unfold resolveNodeConfigDir
  rw [if_neg (not_not.2 hoverride), if_pos rfl, hjoin, locate_join (normalizeConfigDir_ne_nil baseDir),
    splitOn_of_slashFree hname.slashFree, enterAll_singleton, enter_name hname]

end KeliNode
