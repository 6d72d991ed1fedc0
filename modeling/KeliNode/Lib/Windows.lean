import Mathlib.Data.List.Infix

/-!
# Separators of several symbols

`findWindow` is the first place where a separator stands, `splitPair` the parts between the places where two given
symbols stand side by side, which undoes `joinPair` (`splitPair_joinPair`).  What was found in the front of a list is
found in the whole (`findWindow_append`), and what lies in the front of the whole is found in the front
(`findWindow_of_append`).  An empty line behind full ones is the first empty line (`findWindow_joinPair`).
-/

namespace Lib

section

variable {α : Type} [DecidableEq α]

def findWindow (sep : List α) : List α → Option Nat
  | [] => none
  | x :: xs => if sep.isPrefixOf (x :: xs) then some 0 else (findWindow sep xs).map (· + 1)

variable {sep s t : List α} {n : Nat}

/-- The first place: the separator stands there and nowhere before. -/
theorem findWindow_eq_some (hsep : sep ≠ []) :
    findWindow sep s = some n ↔ sep <+: s.drop n ∧ ∀ m < n, ¬ sep <+: s.drop m := by
  induction s generalizing n with
  | nil => simp [findWindow, hsep]
  | cons x s ih =>
    rw [findWindow]
    by_cases hhere : sep.isPrefixOf (x :: s) = true
    · rw [if_pos hhere]
      rw [List.isPrefixOf_iff_prefix] at hhere
      constructor
      · rintro ⟨⟩
        exact ⟨hhere, fun m hm => absurd hm (Nat.not_lt_zero m)⟩
      · rintro ⟨_, hfirst⟩
        cases n with
        | zero => rfl
        | succ n => exact absurd hhere (hfirst 0 (Nat.succ_pos n))
    · rw [if_neg hhere]
      rw [List.isPrefixOf_iff_prefix] at hhere
      cases n with
      | zero =>
        refine ⟨fun h => ?_, fun h => absurd h.1 hhere⟩
        obtain ⟨m, _, hm⟩ := Option.map_eq_some_iff.1 h
        cases hm
      | succ n =>
        have hmap : (findWindow sep s).map (· + 1) = some (n + 1) ↔ findWindow sep s = some n := by
          simp [Option.map_eq_some_iff]
        rw [hmap, ih]
        constructor
        · rintro ⟨hthere, hfirst⟩
          refine ⟨hthere, fun m hm => ?_⟩
          cases m with
          | zero => exact hhere
          | succ m => exact hfirst m (by omega)
        · rintro ⟨hthere, hfirst⟩
          exact ⟨hthere, fun m hm => hfirst (m + 1) (by omega)⟩

theorem length_of_findWindow (hsep : sep ≠ []) (h : findWindow sep s = some n) : n + sep.length ≤ s.length := by
  have hlen := ((findWindow_eq_some hsep).1 h).1.length_le
  have hpos := List.length_pos_of_ne_nil hsep
  rw [List.length_drop] at hlen
  omega

omit [DecidableEq α] in
theorem prefix_drop_append (h : sep <+: s.drop n) (hn : n ≤ s.length) : sep <+: (s ++ t).drop n := by
  rw [List.drop_append_of_le_length hn]
  exact h.trans (List.prefix_append _ _)

omit [DecidableEq α] in
theorem prefix_drop_of_append (h : sep <+: (s ++ t).drop n) (hn : n + sep.length ≤ s.length) : sep <+: s.drop n := by
  rw [List.drop_append_of_le_length (by omega)] at h
  exact List.prefix_of_prefix_length_le h (List.prefix_append _ _) (by rw [List.length_drop]; omega)

theorem findWindow_append (hsep : sep ≠ []) (h : findWindow sep s = some n) : findWindow sep (s ++ t) = some n := by
  have hlen := length_of_findWindow hsep h
  rw [findWindow_eq_some hsep] at h ⊢
  exact ⟨prefix_drop_append h.1 (by omega), fun m hm hpre => h.2 m hm (prefix_drop_of_append hpre (by omega))⟩

theorem findWindow_of_append (hsep : sep ≠ []) (h : findWindow sep (s ++ t) = some n) (hn : n + sep.length ≤ s.length) :
    findWindow sep s = some n := by
  rw [findWindow_eq_some hsep] at h ⊢
  exact ⟨prefix_drop_of_append h.1 hn, fun m hm hpre => h.2 m hm (prefix_drop_append hpre (by omega))⟩

end

section

variable {α : Type} [DecidableEq α]

/-- `str::split` at a pattern of two characters. -/
def splitPair (a b : α) : List α → List (List α)
  | [] => [[]]
  | [x] => [[x]]
  | x :: y :: rest => if x = a ∧ y = b then [] :: splitPair a b rest else (splitPair a b (y :: rest)).modifyHead (x :: ·)

/-- Lines with the pair between them. -/
def joinPair (a b : α) (lines : List (List α)) : List α := [a, b].intercalate lines

variable {a b : α} {xs rest sep : List α} {lines : List (List α)}

theorem splitPair_of_notMem (ha : a ∉ xs) : splitPair a b xs = [xs] := by
  induction xs with
  | nil => rfl
  | cons x xs ih =>
    rw [List.mem_cons, not_or] at ha
    cases xs with
    | nil => rfl
    | cons y xs => rw [splitPair, if_neg (fun h => ha.1 h.1.symm), ih ha.2, List.modifyHead_cons]

theorem splitPair_append (ha : a ∉ xs) :
    splitPair a b (xs ++ a :: b :: rest) = xs :: splitPair a b rest := by
  induction xs with
  | nil => rw [List.nil_append, splitPair, if_pos ⟨rfl, rfl⟩]
  | cons x xs ih =>
    rw [List.mem_cons, not_or] at ha
    have hnext : ∃ y ys, xs ++ a :: b :: rest = y :: ys := by
      cases xs with
      | nil => exact ⟨_, _, rfl⟩
      | cons y ys => exact ⟨_, _, rfl⟩
    obtain ⟨y, ys, hys⟩ := hnext
    rw [List.cons_append, hys, splitPair, if_neg (fun h => ha.1 h.1.symm), ← hys, ih ha.2, List.modifyHead_cons]

/-- **Round trip**: lines without the first symbol are split as they were joined. -/
theorem splitPair_joinPair (hne : lines ≠ []) (hfree : ∀ line ∈ lines, a ∉ line) :
    splitPair a b (joinPair a b lines) = lines := by
  induction lines with
  | nil => exact absurd rfl hne
  | cons line lines ih =>
    rw [List.forall_mem_cons] at hfree
    cases lines with
    | nil => simpa [joinPair] using splitPair_of_notMem hfree.1
    | cons next lines =>
      have hjoin : joinPair a b (line :: next :: lines) = line ++ a :: b :: joinPair a b (next :: lines) := by
        simp [joinPair, List.intercalate_cons_cons]
      rw [hjoin, splitPair_append hfree.1, ih (by simp) hfree.2]

omit [DecidableEq α] in
/-- A separator behind the last line: every line is followed by one. -/
theorem joinPair_append (hne : lines ≠ []) :
    joinPair a b lines ++ a :: b :: rest = lines.flatMap (· ++ [a, b]) ++ rest := by
  induction lines with
  | nil => exact absurd rfl hne
  | cons line lines ih =>
    cases lines with
    | nil => simp [joinPair]
    | cons next lines =>
      have hjoin : joinPair a b (line :: next :: lines) = line ++ a :: b :: joinPair a b (next :: lines) := by
        simp [joinPair, List.intercalate_cons_cons]
      rw [hjoin, List.append_assoc, List.cons_append, List.cons_append, ih (by simp), List.flatMap_cons]
      simp

theorem findWindow_cons_of_not (h : ¬ sep <+: a :: rest) :
    findWindow sep (a :: rest) = (findWindow sep rest).map (· + 1) := by
  rw [findWindow, if_neg (by simpa [List.isPrefixOf_iff_prefix] using h)]

/-- Where the first symbol is missing, no separator starts. -/
theorem findWindow_skip (ha : a ∉ xs) :
    findWindow (a :: sep) (xs ++ rest) = (findWindow (a :: sep) rest).map (· + xs.length) := by
  induction xs with
  | nil => simp
  | cons x xs ih =>
    rw [List.mem_cons, not_or] at ha
    rw [List.cons_append, findWindow_cons_of_not (fun h => ha.1 (List.cons_prefix_cons.1 h).1), ih ha.2, Option.map_map]
    congr 1

/-- **The empty line** behind lines that are not empty is the first one. -/
theorem findWindow_joinPair (hab : a ≠ b) (hne : lines ≠ []) (hfree : ∀ line ∈ lines, a ∉ line)
    (hfull : ∀ line ∈ lines, line ≠ []) :
    findWindow [a, b, a, b] (joinPair a b lines ++ a :: b :: a :: b :: rest) = some (joinPair a b lines).length := by
  induction lines with
  | nil => exact absurd rfl hne
  | cons line lines ih =>
    rw [List.forall_mem_cons] at hfree hfull
    cases lines with
    | nil =>
      have hhere : findWindow [a, b, a, b] (a :: b :: a :: b :: rest) = some 0 := by
        rw [findWindow, if_pos (by simp [List.isPrefixOf])]
      simp only [joinPair, List.intercalate_singleton]
      rw [findWindow_skip hfree.1, hhere]
      simp
    | cons next lines =>
      have hjoin : joinPair a b (line :: next :: lines) = line ++ a :: b :: joinPair a b (next :: lines) := by
        simp [joinPair, List.intercalate_cons_cons]
      -- the line behind this one starts with another symbol
      obtain ⟨c, cs, hnext⟩ := List.exists_cons_of_ne_nil (hfull.2 next List.mem_cons_self)
      have hc : a ≠ c := fun heq => hfree.2 next List.mem_cons_self (hnext ▸ heq ▸ List.mem_cons_self)
      obtain ⟨tail, htail⟩ : ∃ tail, joinPair a b (next :: lines) = c :: tail := by
        cases lines with
        | nil => exact ⟨cs, by simpa [joinPair] using hnext⟩
        | cons later lines => exact ⟨_, by rw [joinPair, List.intercalate_cons_cons, hnext]; rfl⟩
      have hfirst : ¬ [a, b, a, b] <+: a :: b :: (joinPair a b (next :: lines) ++ a :: b :: a :: b :: rest) := by
        rw [htail]
        intro h
        have hthird := (List.cons_prefix_cons.1 (List.cons_prefix_cons.1 h).2).2
        exact hc (List.cons_prefix_cons.1 hthird).1
      have hsecond : ¬ [a, b, a, b] <+: b :: (joinPair a b (next :: lines) ++ a :: b :: a :: b :: rest) :=
        fun h => hab (List.cons_prefix_cons.1 h).1
      rw [hjoin, List.append_assoc, findWindow_skip hfree.1, List.cons_append, List.cons_append,
        findWindow_cons_of_not hfirst, findWindow_cons_of_not hsecond, ih (by simp) hfree.2 hfull.2]
      simp only [Option.map_some, List.length_append, List.length_cons, Option.some.injEq]
      omega

end

end Lib
