import KeliNode.Lib.Text

/-!
# Paths of a file system

A path is read from a directory, the row of names that leads there from the root (`locate`).  An absolute path leaves
that directory for the root; an empty component and a single dot stay where they are; a double dot goes up, and at the
root stays there.

`Tidy` rows are double dots and then names.  Printing one and reading it again gives the row (`pathParts_printPath`)
and leads where the row leads (`locate_printPath`).
-/

namespace Lib

def isAbsolute (path : Text) : Bool := path.head? = some '/'

def enter (dir : List Text) (part : Text) : List Text :=
  if part = [] ∨ part = "." then dir else if part = ".." then dir.dropLast else dir ++ [part]

def enterAll (dir parts : List Text) : List Text := parts.foldl enter dir

/-- Where a path leads from a directory. -/
def locate (dir : List Text) (path : Text) : List Text :=
  enterAll (if isAbsolute path then [] else dir) (splitOn '/' path)

/-- The components of a path, without the slash in front of an absolute one. -/
def pathParts (path : Text) : List Text := splitOn '/' (if isAbsolute path then path.tail else path)

/-- A component that goes down. -/
structure IsName (part : Text) : Prop where
  nonempty : part ≠ []
  notDot : part ≠ "."
  notUp : part ≠ ".."
  slashFree : '/' ∉ part

/-- Double dots and then names; none of the former from the root. -/
structure Tidy (absolute : Bool) (ups : Nat) (names : List Text) : Prop where
  root : absolute = true → ups = 0
  isName : ∀ name ∈ names, IsName name

def tidyRow (ups : Nat) (names : List Text) : List Text := List.replicate ups ((".." : String) : Text) ++ names

def printPath (absolute : Bool) (parts : List Text) : Text :=
  if absolute then '/' :: join "/" parts else if parts = [] then "." else join "/" parts

section

variable {dir parts names : List Text} {part path : Text} {absolute : Bool} {ups : Nat}

@[simp] theorem enter_nil : enter dir [] = dir := rfl

@[simp] theorem enter_dot : enter dir "." = dir := by
  rw [enter, if_pos (.inr rfl)]

@[simp] theorem enter_up : enter dir ".." = dir.dropLast := by
  rw [enter, if_neg (by decide), if_pos rfl]

theorem enter_name (h : IsName part) : enter dir part = dir ++ [part] := by
  rw [enter, if_neg (not_or.2 ⟨h.nonempty, h.notDot⟩), if_neg h.notUp]

@[simp] theorem enterAll_nil : enterAll dir [] = dir := rfl

theorem enterAll_cons : enterAll dir (part :: parts) = enterAll (enter dir part) parts := rfl

theorem enterAll_append {more : List Text} : enterAll dir (parts ++ more) = enterAll (enterAll dir parts) more :=
  List.foldl_append

theorem enterAll_singleton : enterAll dir [part] = enter dir part := rfl

theorem enterAll_names (h : ∀ name ∈ names, IsName name) : enterAll dir names = dir ++ names := by
  induction names generalizing dir with
  | nil => simp
  | cons name names ih =>
    rw [List.forall_mem_cons] at h
    rw [enterAll_cons, enter_name h.1, ih h.2, List.append_assoc]
    rfl

/-! ## Slashes at the end -/

theorem trimEndMatches_append_slashes (path : Text) :
    ∃ n, path = trimEndMatches (· = '/') path ++ List.replicate n '/' := by
  let slashes := path.reverse.takeWhile fun c => decide (c = '/')
  have hslashes : slashes = List.replicate slashes.length '/' :=
    List.eq_replicate_of_mem fun c hc => by simpa using List.mem_takeWhile_imp hc
  refine ⟨slashes.length, ?_⟩
  calc path = (slashes ++ path.reverse.dropWhile fun c => decide (c = '/')).reverse := by
        rw [List.takeWhile_append_dropWhile, List.reverse_reverse]
    _ = trimEndMatches (· = '/') path ++ slashes.reverse := List.reverse_append
    _ = trimEndMatches (· = '/') path ++ List.replicate slashes.length '/' := by
        rw [hslashes, List.reverse_replicate, List.length_replicate]

theorem enterAll_splitOn_slashes (n : Nat) :
    enterAll dir (splitOn '/' (path ++ List.replicate n '/')) = enterAll dir (splitOn '/' path) := by
  induction n with
  | zero => simp
  | succ n ih =>
    rw [List.replicate_succ', ← List.append_assoc, splitOn, List.splitOn_append_cons_self, enterAll_append]
    exact ih

/-- A child behind a directory, with one slash between. -/
theorem locate_join {root child : Text} (h : root ≠ []) :
    locate dir (trimEndMatches (· = '/') root ++ "/" ++ child) = enterAll (locate dir root) (splitOn '/' child) := by
  obtain ⟨n, hn⟩ := trimEndMatches_append_slashes root
  generalize trimEndMatches (· = '/') root = trimmed at hn
  subst hn
  have habsolute : isAbsolute (trimmed ++ "/" ++ child) = isAbsolute (trimmed ++ List.replicate n '/') := by
    cases trimmed with
    | nil =>
      cases n with
      | zero => exact absurd rfl h
      | succ n => rfl
    | cons c trimmed => rfl
  have hregroup : trimmed ++ "/" ++ child = trimmed ++ '/' :: child := by simp
  rw [locate, locate, habsolute, enterAll_splitOn_slashes, hregroup, splitOn, List.splitOn_append_cons_self,
    enterAll_append]
  rfl

/-- `path` is an entry of the directory `root`, wherever relative paths start. -/
def EntryOf (root path : Text) : Prop := ∃ name, ∀ dir, locate dir path = locate dir root ++ [name]

theorem splitOn_of_slashFree (h : '/' ∉ part) : splitOn '/' part = [part] := List.splitOn_eq_singleton h

/-- Only a name makes an entry. -/
theorem entryOf_join_iff {root child : Text} (hroot : root ≠ []) (hchild : '/' ∉ child) :
    EntryOf root (trimEndMatches (· = '/') root ++ "/" ++ child) ↔ IsName child := by
  have hlocate : ∀ dir, locate dir (trimEndMatches (· = '/') root ++ "/" ++ child) = enter (locate dir root) child := by
    intro dir
    rw [locate_join hroot, splitOn_of_slashFree hchild, enterAll_singleton]
  constructor
  · rintro ⟨name, h⟩
    have hlen := congrArg List.length (h [])
    rw [hlocate] at hlen
    rw [List.length_append, List.length_singleton] at hlen
    refine ⟨?_, ?_, ?_, hchild⟩ <;> rintro rfl
    · rw [enter_nil] at hlen
      omega
    · rw [enter_dot] at hlen
      omega
    · rw [enter_up, List.length_dropLast] at hlen
      omega
  · exact fun h => ⟨child, fun dir => by rw [hlocate, enter_name h]⟩

/-! ## Tidy rows -/

theorem isName_up_or_name (h : Tidy absolute ups names) (hpart : part ∈ tidyRow ups names) :
    part = ".." ∨ IsName part := by
  rcases List.mem_append.1 hpart with hup | hname
  · exact .inl (List.eq_of_mem_replicate hup)
  · exact .inr (h.isName part hname)

/-- What a component of a tidy row is not. -/
theorem part_of_mem_tidyRow (h : Tidy absolute ups names) (hpart : part ∈ tidyRow ups names) :
    part ≠ [] ∧ part ≠ "." ∧ '/' ∉ part := by
  rcases isName_up_or_name h hpart with rfl | hname
  · decide
  · exact ⟨hname.nonempty, hname.notDot, hname.slashFree⟩

theorem enterAll_tidyRow (h : Tidy absolute ups names) :
    enterAll dir (tidyRow ups names) = enterAll dir (List.replicate ups ((".." : String) : Text)) ++ names := by
  rw [tidyRow, enterAll_append, enterAll_names h.isName]

theorem splitOn_slash_cons (path : Text) : splitOn '/' ('/' :: path) = [] :: splitOn '/' path :=
  List.splitOn_append_cons_self [] path

theorem locate_eq_enterAll_pathParts :
    locate dir path = enterAll (if isAbsolute path then [] else dir) (pathParts path) := by
  unfold locate pathParts
  by_cases h : isAbsolute path = true
  · rw [if_pos h, if_pos h]
    cases path with
    | nil => cases h
    | cons c path =>
      obtain rfl : c = '/' := by simpa [isAbsolute] using h
      rw [splitOn_slash_cons, enterAll_cons, enter_nil, List.tail_cons]
  · rw [if_neg h, if_neg h]

theorem isAbsolute_join (hne : parts ≠ []) (hparts : ∀ part ∈ parts, part ≠ [] ∧ '/' ∉ part) :
    isAbsolute (join "/" parts) = false := by
  obtain ⟨first, rest, rfl⟩ := List.exists_cons_of_ne_nil hne
  obtain ⟨hfirst, hslash⟩ := hparts first List.mem_cons_self
  obtain ⟨c, first, rfl⟩ := List.exists_cons_of_ne_nil hfirst
  have hc : c ≠ '/' := by
    rintro rfl
    exact hslash List.mem_cons_self
  cases rest <;> simpa [isAbsolute, join] using hc

theorem isAbsolute_printPath (h : Tidy absolute ups names) :
    isAbsolute (printPath absolute (tidyRow ups names)) = absolute := by
  unfold printPath
  cases absolute with
  | true => rfl
  | false =>
    by_cases hne : tidyRow ups names = []
    · rw [if_neg Bool.false_ne_true, if_pos hne]
      decide
    · rw [if_neg Bool.false_ne_true, if_neg hne]
      exact isAbsolute_join hne fun part hpart => ⟨(part_of_mem_tidyRow h hpart).1, (part_of_mem_tidyRow h hpart).2.2⟩

/-- **What is printed is read back.** -/
theorem pathParts_printPath (h : Tidy absolute ups names) (hne : tidyRow ups names ≠ []) :
    pathParts (printPath absolute (tidyRow ups names)) = tidyRow ups names := by
  have hsplit : splitOn '/' (join "/" (tidyRow ups names)) = tidyRow ups names :=
    splitOn_join '/' _ hne fun part hpart => (part_of_mem_tidyRow h hpart).2.2
  rw [pathParts, isAbsolute_printPath h]
  cases absolute with
  | true => exact hsplit
  | false =>
    rw [if_neg Bool.false_ne_true, printPath, if_neg Bool.false_ne_true, if_neg hne]
    exact hsplit

theorem locate_printPath (h : Tidy absolute ups names) :
    locate dir (printPath absolute (tidyRow ups names)) =
      enterAll (if absolute then [] else dir) (tidyRow ups names) := by
  rw [locate_eq_enterAll_pathParts, isAbsolute_printPath h]
  by_cases hne : tidyRow ups names = []
  · rw [hne]
    cases absolute with
    | true => rfl
    | false => exact enter_dot
  · rw [pathParts_printPath h hne]

/-! ## The last character -/

/-- A printed tidy row is the root or ends in no slash. -/
theorem printPath_end (h : Tidy absolute ups names) :
    printPath absolute (tidyRow ups names) = "/" ∨
      ∃ c, (printPath absolute (tidyRow ups names)).getLast? = some c ∧ c ≠ '/' := by
  have hjoin : tidyRow ups names ≠ [] → ∃ c, (join "/" (tidyRow ups names)).getLast? = some c ∧ c ≠ '/' := by
    intro hne
    refine getLast?_join "/" (tidyRow ups names) hne fun part hpart => ?_
    obtain ⟨hnonempty, -, hslash⟩ := part_of_mem_tidyRow h hpart
    refine ⟨part.getLast hnonempty, List.getLast?_eq_some_getLast hnonempty, fun heq => ?_⟩
    exact hslash (heq ▸ List.getLast_mem hnonempty)
  by_cases hne : tidyRow ups names = []
  · rw [hne]
    cases absolute with
    | true => exact .inl rfl
    | false => exact .inr ⟨'.', rfl, by decide⟩
  · obtain ⟨c, hc, hslash⟩ := hjoin hne
    refine .inr ⟨c, ?_, hslash⟩
    unfold printPath
    split
    · rw [List.getLast?_cons, hc]
      rfl
    · exact hc

/-- Trimming the slashes loses nothing of a path that is the root or ends in no slash. -/
theorem eq_of_trimEndMatches {first second : Text}
    (hfirst : first = "/" ∨ ∃ c, first.getLast? = some c ∧ c ≠ '/')
    (hsecond : second = "/" ∨ ∃ c, second.getLast? = some c ∧ c ≠ '/')
    (h : trimEndMatches (· = '/') first = trimEndMatches (· = '/') second) : first = second := by
  have hself : ∀ path : Text, (∃ c, path.getLast? = some c ∧ c ≠ '/') → trimEndMatches (· = '/') path = path ∧ path ≠ [] := by
    rintro path ⟨c, hc, hslash⟩
    refine ⟨trimEndMatches_eq_self fun d hd => ?_, ?_⟩
    · rw [hc] at hd
      cases hd
      exact decide_eq_false hslash
    · rintro rfl
      cases hc
  have hroot : trimEndMatches (· = '/') ("/" : Text) = [] := by decide
  rcases hfirst with rfl | hfirst <;> rcases hsecond with rfl | hsecond
  · rfl
  · rw [hroot, (hself _ hsecond).1] at h
    exact absurd h.symm (hself _ hsecond).2
  · rw [hroot, (hself _ hfirst).1] at h
    exact absurd h (hself _ hfirst).2
  · rwa [(hself _ hfirst).1, (hself _ hsecond).1] at h

end

end Lib
