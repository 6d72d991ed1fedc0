import KeliNode.Lib.Text

/-!
# Dot segments

The path behind an authority is empty or a row of segments, each behind a slash (`joinSegments`).  A dot segment
names the segment before it, a double dot the one above; each dot may stand as a percent code.  `removeDotSegments`
is the reduction of RFC 3986, 5.2.4, on rows.

A walk through a row is known from where it starts and from two facts about the row alone (`climb`): how many
segments above its start it goes, and what it leaves there (`walk_eq_climb`).  So a row that is walked from a
directory ends below it exactly if it walks down again the segments that it climbed (`prefix_walk_iff`), and forgets
where it started exactly if it climbs over all of it (`collapse_append_iff`).
-/

namespace Lib

/-! ## Segments -/

def segments (path : Text) : List Text := (splitOn '/' path).tail

def joinSegments (segs : List Text) : Text := segs.flatMap ('/' :: ·)

section

variable {segs xs ys : List Text} {path tail : Text}

theorem joinSegments_append : joinSegments (xs ++ ys) = joinSegments xs ++ joinSegments ys := List.flatMap_append

@[simp] theorem joinSegments_nil : joinSegments [] = [] := rfl

@[simp] theorem joinSegments_cons {seg : Text} : joinSegments (seg :: segs) = '/' :: (seg ++ joinSegments segs) := rfl

theorem splitOn_joinSegments (h : ∀ s ∈ segs, '/' ∉ s) {first : Text} (hfirst : '/' ∉ first) :
    splitOn '/' (first ++ joinSegments segs) = first :: segs := by
  induction segs generalizing first with
  | nil => simpa [splitOn] using List.splitOn_eq_singleton hfirst
  | cons seg segs ih =>
    rw [List.forall_mem_cons] at h
    rw [joinSegments_cons, splitOn, List.splitOn_append_cons_self_of_not_mem hfirst]
    exact congrArg (first :: ·) (ih h.2 h.1)

theorem segments_joinSegments (h : ∀ s ∈ segs, '/' ∉ s) : segments (joinSegments segs) = segs := by
  have hsplit := splitOn_joinSegments h (List.not_mem_nil : '/' ∉ ([] : Text))
  rw [List.nil_append] at hsplit
  rw [segments, hsplit, List.tail_cons]

theorem segments_append : segments (path ++ '/' :: tail) = segments path ++ splitOn '/' tail := by
  rw [segments, segments, splitOn, List.splitOn_append_cons_self, List.tail_append_of_ne_nil (List.splitOn_ne_nil _ _)]
  rfl

theorem joinSegments_splitOn (s : Text) : joinSegments (splitOn '/' s) = '/' :: s := by
  suffices h : ∀ (seg : Text) (segs : List Text),
      joinSegments (seg :: segs) = '/' :: (['/'] : Text).intercalate (seg :: segs) by
    obtain ⟨seg, segs, hsplit⟩ := List.exists_cons_of_ne_nil (List.splitOn_ne_nil '/' s)
    rw [splitOn, hsplit, h, ← hsplit, List.intercalate_splitOn]
  intro seg segs
  induction segs generalizing seg with
  | nil => simp
  | cons next segs ih => rw [joinSegments_cons, ih, List.intercalate_cons_cons]; simp

theorem part_of_mem_segments {s : Text} (hs : s ∈ segments path) : '/' ∉ s ∧ s ⊆ path :=
  part_of_mem_splitOn (List.mem_of_mem_tail hs)

theorem joinSegments_inj (hx : ∀ s ∈ xs, '/' ∉ s) (hy : ∀ s ∈ ys, '/' ∉ s) (h : joinSegments xs = joinSegments ys) :
    xs = ys := by
  rw [← segments_joinSegments hx, h, segments_joinSegments hy]

/-- `path` is the directory or goes on below it. -/
def Below (dir path : Text) : Prop := path = dir ∨ dir ++ ['/'] <+: path

theorem below_joinSegments (hx : ∀ s ∈ xs, '/' ∉ s) (hy : ∀ s ∈ ys, '/' ∉ s) :
    Below (joinSegments xs) (joinSegments ys) ↔ xs <+: ys := by
  constructor
  · rintro (heq | ⟨tail, htail⟩)
    · exact joinSegments_inj hy hx heq ▸ List.prefix_rfl
    · have hsegs := congrArg segments htail
      rw [segments_joinSegments hy, List.append_assoc, List.singleton_append, segments_append,
        segments_joinSegments hx] at hsegs
      exact ⟨_, hsegs⟩
  · rintro ⟨rest, rfl⟩
    cases rest with
    | nil => exact .inl (by rw [List.append_nil])
    | cons seg rest =>
      right
      rw [joinSegments_append, joinSegments_cons]
      exact ⟨seg ++ joinSegments rest, by simp⟩

end

/-! ## Walking a row -/

/-- The ways to write one dot. -/
def dotForms : List Text := [".", "%2e", "%2E"]

def isDot (segment : Text) : Bool := dotForms.contains segment

def isDotDot (segment : Text) : Bool := dotForms.any fun first => dotForms.any fun second => segment = first ++ second

def isDotSegment (segment : Text) : Bool := isDotDot segment || isDot segment

def walkStep (at_ : List Text) (segment : Text) : List Text :=
  if isDotDot segment then at_.dropLast else if isDot segment then at_ else at_ ++ [segment]

/-- Where a row leads that is walked from `at_`. -/
def walk (at_ segs : List Text) : List Text := segs.foldl walkStep at_

/-- A dot segment at the end leaves the slash before it. -/
def trailing (segs : List Text) : List Text :=
  match segs.getLast? with
  | some segment => if isDotSegment segment then [[]] else []
  | none => []

def collapse (segs : List Text) : List Text := walk [] segs ++ trailing segs

/-- `remove_dot_segments` of RFC 3986, 5.2.4, on a path that is empty or starts with a slash. -/
def removeDotSegments (path : Text) : Text := joinSegments (collapse (segments path))

/-- The directory that a path stands for. -/
def directory (path : Text) : Text := joinSegments (walk [] (segments path))

def climbStep (reached : Nat × List Text) (segment : Text) : Nat × List Text :=
  if isDotDot segment then (if reached.2 = [] then (reached.1 + 1, []) else (reached.1, reached.2.dropLast))
  else if isDot segment then reached
  else (reached.1, reached.2 ++ [segment])

/-- How many segments above its start a walk goes, and what it leaves there. -/
def climb (segs : List Text) : Nat × List Text := segs.foldl climbStep (0, [])

section

variable {at_ segs xs ys : List Text}

theorem walk_append : walk at_ (xs ++ ys) = walk (walk at_ xs) ys := List.foldl_append

theorem walk_of_plain (h : ∀ s ∈ segs, isDotSegment s = false) : walk at_ segs = at_ ++ segs := by
  induction segs generalizing at_ with
  | nil => simp [walk]
  | cons seg segs ih =>
    rw [List.forall_mem_cons] at h
    have hseg := h.1
    rw [isDotSegment, Bool.or_eq_false_iff] at hseg
    have hstep : walkStep at_ seg = at_ ++ [seg] := by simp [walkStep, hseg.1, hseg.2]
    rw [walk, List.foldl_cons, hstep]
    exact (ih h.2).trans (by simp)

/-- Only segments of the row are added, and no dot segment is. -/
theorem mem_walk {s : Text} (h : s ∈ walk at_ segs) : s ∈ at_ ∨ (s ∈ segs ∧ isDotSegment s = false) := by
  induction segs generalizing at_ with
  | nil => exact .inl h
  | cons seg segs ih =>
    rcases ih h with hstep | ⟨hmem, hplain⟩
    · simp only [walkStep] at hstep
      split at hstep
      · exact .inl ((List.dropLast_subset _ hstep))
      · split at hstep
        · exact .inl hstep
        · rename_i hdotdot hdot
          rcases List.mem_append.1 hstep with hmem | hmem
          · exact .inl hmem
          · rw [List.mem_singleton.1 hmem]
            exact .inr ⟨List.mem_cons_self, by simp [isDotSegment, hdotdot, hdot]⟩
    · exact .inr ⟨List.mem_cons_of_mem _ hmem, hplain⟩

theorem mem_trailing {s : Text} (h : s ∈ trailing segs) : s = [] := by
  simp only [trailing] at h
  split at h
  · split at h
    · exact List.mem_singleton.1 h
    · cases h
  · cases h

theorem trailing_append_singleton {seg : Text} :
    trailing (segs ++ [seg]) = if isDotSegment seg then [[]] else [] := by
  simp [trailing]

theorem trailing_append (h : ys ≠ []) : trailing (xs ++ ys) = trailing ys := by
  rw [trailing, List.getLast?_append_of_ne_nil _ h, trailing]

theorem isDotSegment_nil : isDotSegment [] = false := by decide

theorem mem_collapse {s : Text} (h : s ∈ collapse segs) : (s = [] ∨ s ∈ segs) ∧ isDotSegment s = false := by
  rcases List.mem_append.1 h with h | h
  · rcases mem_walk h with hnil | ⟨hmem, hplain⟩
    · cases hnil
    · exact ⟨.inr hmem, hplain⟩
  · rw [mem_trailing h]
    exact ⟨.inl rfl, isDotSegment_nil⟩

theorem take_length_sub_dropLast (k : Nat) :
    (at_.take (at_.length - k)).dropLast = at_.take (at_.length - (k + 1)) := by
  rw [List.dropLast_eq_take, List.take_take, List.length_take]
  congr 1
  omega

/-- **A walk and its climb**: what is left of the start, and then what the row leaves. -/
theorem walk_eq_climb (at_ segs : List Text) :
    walk at_ segs = at_.take (at_.length - (climb segs).1) ++ (climb segs).2 := by
  suffices h : ∀ reached : Nat × List Text, walk (at_.take (at_.length - reached.1) ++ reached.2) segs =
      at_.take (at_.length - (segs.foldl climbStep reached).1) ++ (segs.foldl climbStep reached).2 by
    simpa [climb] using h (0, [])
  induction segs with
  | nil => exact fun _ => rfl
  | cons seg segs ih =>
    intro reached
    have hstep : walkStep (at_.take (at_.length - reached.1) ++ reached.2) seg =
        at_.take (at_.length - (climbStep reached seg).1) ++ (climbStep reached seg).2 := by
      simp only [walkStep, climbStep]
      split
      · split
        · rename_i hnil
          rw [hnil, List.append_nil, List.append_nil, take_length_sub_dropLast]
        · rename_i hne
          rw [List.dropLast_append_of_ne_nil hne]
      · split
        · rfl
        · rw [List.append_assoc]
    rw [List.foldl_cons, ← ih, ← hstep]
    rfl

theorem collapse_ne_nil (h : segs ≠ []) : collapse segs ≠ [] := by
  intro hnil
  obtain ⟨front, last, rfl⟩ := (List.eq_nil_or_concat' _).resolve_left h
  rw [collapse, trailing_append_singleton, List.append_eq_nil_iff] at hnil
  obtain ⟨hwalk, htrailing⟩ := hnil
  split at htrailing
  · cases htrailing
  · rename_i hplain
    rw [Bool.not_eq_true] at hplain
    rw [walk_append, walk_of_plain (fun s hs => List.mem_singleton.1 hs ▸ hplain)] at hwalk
    simp at hwalk

/-- A row without dot segments is not reduced. -/
theorem collapse_of_plain (h : ∀ s ∈ segs, isDotSegment s = false) : collapse segs = segs := by
  have htrailing : trailing segs = [] := by
    simp only [trailing]
    split
    · rename_i last hlast
      rw [h last (List.mem_of_getLast? hlast)]
      rfl
    · rfl
  rw [collapse, walk_of_plain h, htrailing, List.append_nil, List.nil_append]

theorem collapse_append (h : ys ≠ []) : collapse (xs ++ ys) =
    (walk [] xs).take ((walk [] xs).length - (climb ys).1) ++ ((climb ys).2 ++ trailing ys) := by
  rw [collapse, walk_append, trailing_append h, walk_eq_climb, List.append_assoc]

/-- **What a climb forgets**: a row is reduced alike behind more segments exactly if it climbs over all of them. -/
theorem collapse_append_iff {more : List Text} (hys : ys ≠ []) (hmore : more ≠ []) (hwalk : walk [] segs = walk [] xs ++ more) :
    collapse (xs ++ ys) = collapse (segs ++ ys) ↔ (walk [] segs).length ≤ (climb ys).1 := by
  rw [collapse_append hys, collapse_append hys, List.append_left_inj]
  have hpos := List.length_pos_of_ne_nil hmore
  have hlen : (walk [] segs).length = (walk [] xs).length + more.length := by rw [hwalk, List.length_append]
  constructor
  · intro h
    have hlengths := congrArg List.length h
    simp only [List.length_take] at hlengths
    omega
  · intro h
    rw [Nat.sub_eq_zero_of_le h, Nat.sub_eq_zero_of_le (by omega), List.take_zero, List.take_zero]

theorem collapse_append_eq_collapse (hys : ys ≠ []) :
    collapse (xs ++ ys) = collapse ys ↔ (walk [] xs).length ≤ (climb ys).1 := by
  have hempty : collapse ys = ([] : List Text) ++ ((climb ys).2 ++ trailing ys) := by
    conv => enter [1]; rw [← List.nil_append ys, collapse_append hys]
    simp [walk]
  rw [collapse_append hys, hempty, List.append_left_inj, List.take_eq_nil_iff]
  constructor
  · rintro (h | h)
    · omega
    · rw [h]
      exact Nat.zero_le _
  · intro h
    left
    omega

/-- An empty segment behind a row is there already if the row ends in a dot segment. -/
theorem collapse_append_empty (h : xs ≠ []) :
    collapse (xs ++ [[]]) = collapse xs ↔ ∀ s ∈ xs.getLast?, isDotSegment s = true := by
  obtain ⟨front, last, rfl⟩ := (List.eq_nil_or_concat' _).resolve_left h
  have hlast : ∀ at_, walk at_ [[]] = at_ ++ [[]] := fun _ =>
    walk_of_plain (fun s hs => List.mem_singleton.1 hs ▸ isDotSegment_nil)
  rw [collapse, walk_append, trailing_append_singleton, collapse, trailing_append_singleton, hlast, isDotSegment_nil]
  by_cases hdot : isDotSegment last = true
  · simp [hdot]
  · simp [hdot]

/-- **Staying below**: a walk from `at_` ends below it exactly if it goes down again what it climbed. -/
theorem prefix_walk_iff {rest : List Text} :
    at_ <+: walk at_ segs ++ rest ↔ at_.drop (at_.length - (climb segs).1) <+: (climb segs).2 ++ rest := by
  rw [walk_eq_climb, List.append_assoc]
  conv => enter [1, 1]; rw [← List.take_append_drop (at_.length - (climb segs).1) at_]
  exact List.prefix_append_right_inj _

end

section

variable {path : Text}

theorem collapse_slashFree : ∀ s ∈ collapse (segments path), '/' ∉ s := by
  intro s hs
  rcases (mem_collapse hs).1 with rfl | hmem
  · exact List.not_mem_nil
  · exact (part_of_mem_segments hmem).1

theorem walk_slashFree : ∀ s ∈ walk [] (segments path), '/' ∉ s := by
  intro s hs
  rcases mem_walk hs with hnil | ⟨hmem, _⟩
  · cases hnil
  · exact (part_of_mem_segments hmem).1

theorem removeDotSegments_idem (path : Text) : removeDotSegments (removeDotSegments path) = removeDotSegments path := by
  rw [removeDotSegments, removeDotSegments, segments_joinSegments collapse_slashFree,
    collapse_of_plain fun s hs => (mem_collapse hs).2]

/-- No character is added but slashes. -/
theorem mem_of_mem_removeDotSegments {c : Char} (hc : c ≠ '/') (h : c ∈ removeDotSegments path) : c ∈ path := by
  obtain ⟨s, hs, hmem⟩ := List.mem_flatMap.1 h
  rcases List.mem_cons.1 hmem with heq | hmem
  · exact absurd heq hc
  · rcases (mem_collapse hs).1 with rfl | hseg
    · cases hmem
    · exact (part_of_mem_segments hseg).2 hmem

/-- A path leads to its directory or to the slash behind it. -/
theorem removeDotSegments_eq (path : Text) :
    removeDotSegments path = directory path ∨ removeDotSegments path = directory path ++ ['/'] := by
  rw [removeDotSegments, collapse, joinSegments_append, directory]
  cases htrailing : trailing (segments path) with
  | nil => exact .inl (by simp)
  | cons s rest =>
    right
    simp only [trailing] at htrailing
    split at htrailing
    · split at htrailing
      · cases htrailing
        rfl
      · cases htrailing
    · cases htrailing

theorem below_directory (path : Text) : Below (directory path) (removeDotSegments path) := by
  rcases removeDotSegments_eq path with h | h
  · exact .inl h
  · exact .inr (h ▸ List.prefix_refl _)

end

end Lib
