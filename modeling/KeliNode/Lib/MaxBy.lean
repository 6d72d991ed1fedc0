import Mathlib.Data.List.Induction

/-!
# The last of the largest

`maxByKey` walks a list and keeps the item with the largest key, the later one of two with equal keys.
`maxByKey_eq_some` says which item that is: nothing before it has a larger key and nothing after it has as large a
one.
-/

namespace Lib

section

variable {α : Type} (key : α → Nat)

def maxByKeyStep (best : Option α) (x : α) : Option α :=
  match best with
  | none => some x
  | some y => if key y ≤ key x then some x else some y

/-- `Iterator::max_by_key`. -/
def maxByKey (xs : List α) : Option α := xs.foldl (maxByKeyStep key) none

theorem maxByKey_append_singleton (xs : List α) (x : α) :
    maxByKey key (xs ++ [x]) = maxByKeyStep key (maxByKey key xs) x := by
  simp [maxByKey]

theorem maxByKey_eq_none {xs : List α} : maxByKey key xs = none ↔ xs = [] := by
  rcases List.eq_nil_or_concat xs with rfl | ⟨front, x, rfl⟩
  · exact ⟨fun _ => rfl, fun _ => rfl⟩
  · rw [List.concat_eq_append, maxByKey_append_singleton]
    refine ⟨fun h => ?_, fun h => by simp at h⟩
    cases hbest : maxByKey key front with
    | none => rw [hbest] at h; cases h
    | some best =>
      rw [hbest] at h
      simp only [maxByKeyStep] at h
      split at h <;> cases h

/-- **The maximum**: no earlier item has a larger key, no later item has as large a one. -/
theorem maxByKey_eq_some {xs : List α} {x : α} : maxByKey key xs = some x →
    ∃ front back, xs = front ++ x :: back ∧ (∀ y ∈ front, key y ≤ key x) ∧ ∀ y ∈ back, key y < key x := by
  induction xs using List.reverseRecOn generalizing x with
  | nil => intro h; cases h
  | append_singleton xs last ih =>
    intro h
    rw [maxByKey_append_singleton] at h
    cases hbest : maxByKey key xs with
    | none =>
      rw [hbest] at h
      cases h
      rw [maxByKey_eq_none] at hbest
      exact ⟨[], [], by simp [hbest], by simp, by simp⟩
    | some best =>
      obtain ⟨front, back, hxs, hfront, hback⟩ := ih hbest
      rw [hbest, maxByKeyStep] at h
      by_cases hle : key best ≤ key last
      · rw [if_pos hle] at h
        cases h
        refine ⟨xs, [], rfl, ?_, by simp⟩
        intro y hy
        rw [hxs, List.mem_append, List.mem_cons] at hy
        rcases hy with hy | rfl | hy
        · exact Nat.le_trans (hfront y hy) hle
        · exact hle
        · exact Nat.le_trans (Nat.le_of_lt (hback y hy)) hle
      · rw [if_neg hle] at h
        cases h
        refine ⟨front, back ++ [last], by simp [hxs], hfront, ?_⟩
        intro y hy
        rcases List.mem_append.1 hy with hy | hy
        · exact hback y hy
        · rw [List.mem_singleton.1 hy]
          omega

theorem mem_of_maxByKey {xs : List α} {x : α} (h : maxByKey key xs = some x) : x ∈ xs := by
  obtain ⟨front, back, rfl, _⟩ := maxByKey_eq_some key h
  simp

theorem le_of_maxByKey {xs : List α} {x y : α} (h : maxByKey key xs = some x) (hy : y ∈ xs) : key y ≤ key x := by
  obtain ⟨front, back, rfl, hfront, hback⟩ := maxByKey_eq_some key h
  rw [List.mem_append, List.mem_cons] at hy
  rcases hy with hy | rfl | hy
  · exact hfront y hy
  · exact Nat.le_refl _
  · exact Nat.le_of_lt (hback y hy)

end

end Lib
