import Mathlib.Data.List.Induction
import Mathlib.Data.List.Nodup

/-!
# Judging items in turn

`inTurn judge earlier xs` judges each item in the light of the items before it.  A loop that keeps what it needs of
the earlier items computes this (`inTurn_concat` is its step).  `firsts` are the items that are new when their turn
comes.
-/

namespace Lib

section

variable {α β : Type} (judge : List α → α → β)

def inTurn (earlier : List α) : List α → List β
  | [] => []
  | x :: xs => judge earlier x :: inTurn (earlier ++ [x]) xs

@[simp] theorem inTurn_nil (earlier : List α) : inTurn judge earlier [] = [] := rfl

@[simp] theorem inTurn_cons (earlier : List α) (x : α) (xs : List α) :
    inTurn judge earlier (x :: xs) = judge earlier x :: inTurn judge (earlier ++ [x]) xs := rfl

theorem inTurn_append (earlier xs ys : List α) :
    inTurn judge earlier (xs ++ ys) = inTurn judge earlier xs ++ inTurn judge (earlier ++ xs) ys := by
  induction xs generalizing earlier with
  | nil => simp
  | cons x xs ih => simp [ih]

/-- **Step lemma**: one item more. -/
theorem inTurn_concat (xs : List α) (x : α) : inTurn judge [] (xs ++ [x]) = inTurn judge [] xs ++ [judge xs x] := by
  rw [inTurn_append]
  simp

@[simp] theorem length_inTurn (earlier xs : List α) : (inTurn judge earlier xs).length = xs.length := by
  induction xs generalizing earlier with
  | nil => rfl
  | cons x xs ih => simp [ih]

/-- What the `i`-th item is judged by. -/
theorem getElem?_inTurn (xs : List α) (i : Nat) :
    (inTurn judge [] xs)[i]? = xs[i]?.map (judge (xs.take i)) := by
  have hall : ∀ earlier i, (inTurn judge earlier xs)[i]? = xs[i]?.map (judge (earlier ++ xs.take i)) := by
    induction xs with
    | nil => simp
    | cons x xs ih =>
      intro earlier i
      cases i with
      | zero => simp
      | succ i => simp [ih]
  simpa using hall [] i

end

/-! ## First occurrences -/

section

variable {α β : Type} [DecidableEq α] [DecidableEq β]

/-- The items without those that were there before. -/
def firsts (xs : List α) : List α :=
  (inTurn (fun earlier x => if x ∈ earlier then none else some x) [] xs).filterMap id

theorem firsts_concat (xs : List α) (x : α) : firsts (xs ++ [x]) = if x ∈ xs then firsts xs else firsts xs ++ [x] := by
  rw [firsts, inTurn_concat, List.filterMap_append]
  by_cases h : x ∈ xs
  · simp [h, firsts]
  · simp [h, firsts]

/-- The items that were there before. -/
def repeats (xs : List α) : List α :=
  (inTurn (fun earlier x => if x ∈ earlier then some x else none) [] xs).filterMap id

theorem repeats_concat (xs : List α) (x : α) :
    repeats (xs ++ [x]) = if x ∈ xs then repeats xs ++ [x] else repeats xs := by
  rw [repeats, inTurn_concat, List.filterMap_append]
  by_cases h : x ∈ xs
  · simp [h, repeats]
  · simp [h, repeats]

omit [DecidableEq α] [DecidableEq β] in
theorem mem_map_of_apart {f : α → β} {xs : List α} {y : α}
    (hf : ∀ x ∈ xs ++ [y], ∀ z ∈ xs ++ [y], f x = f z → x = z) : f y ∈ xs.map f ↔ y ∈ xs := by
  rw [List.mem_map]
  constructor
  · rintro ⟨x, hx, heq⟩
    rw [← hf x (List.mem_append_left _ hx) y (List.mem_append_right _ (List.mem_singleton_self y)) heq]
    exact hx
  · exact fun hy => ⟨y, hy, rfl⟩

/-- Where a map tells the items apart, it takes the first occurrences to the first occurrences. -/
theorem map_firsts {f : α → β} {xs : List α} (hf : ∀ x ∈ xs, ∀ y ∈ xs, f x = f y → x = y) :
    (firsts xs).map f = firsts (xs.map f) := by
  induction xs using List.reverseRecOn with
  | nil => rfl
  | append_singleton xs y ih =>
    have ih := ih fun x hx z hz => hf x (List.mem_append_left _ hx) z (List.mem_append_left _ hz)
    have hmem := mem_map_of_apart hf
    rw [List.map_append, List.map_singleton, firsts_concat, firsts_concat]
    by_cases h : y ∈ xs
    · rw [if_pos h, if_pos (hmem.2 h), ih]
    · rw [if_neg h, if_neg fun hfy => h (hmem.1 hfy), List.map_append, ih, List.map_singleton]

theorem map_repeats {f : α → β} {xs : List α} (hf : ∀ x ∈ xs, ∀ y ∈ xs, f x = f y → x = y) :
    (repeats xs).map f = repeats (xs.map f) := by
  induction xs using List.reverseRecOn with
  | nil => rfl
  | append_singleton xs y ih =>
    have ih := ih fun x hx z hz => hf x (List.mem_append_left _ hx) z (List.mem_append_left _ hz)
    have hmem := mem_map_of_apart hf
    rw [List.map_append, List.map_singleton, repeats_concat, repeats_concat]
    by_cases h : y ∈ xs
    · rw [if_pos h, if_pos (hmem.2 h), List.map_append, ih, List.map_singleton]
    · rw [if_neg h, if_neg fun hfy => h (hmem.1 hfy), ih]

end

end Lib
