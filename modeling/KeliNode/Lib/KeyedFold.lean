import Mathlib.Data.List.Basic

/-!
# Lists of keyed values, folded into a map

Inserting the elements of a list one by one leaves, under each key, the last element that has it
(`getElem?_foldl_insert`); erasing their keys one by one leaves the other keys (`getElem?_foldl_erase`).  The
values of a map whose entries stand under their own key give the map back (`lastWith_values`).
-/

namespace Lib

open Std

section

variable {α κ : Type} [DecidableEq κ] (key : α → κ)

/-- The last element of a list with a key. -/
def lastWith (xs : List α) (k : κ) : Option α := xs.reverse.find? (key · = k)

@[simp] theorem lastWith_nil (k : κ) : lastWith key [] k = none := rfl

theorem lastWith_cons (x : α) (xs : List α) (k : κ) :
    lastWith key (x :: xs) k = (lastWith key xs k).or (if key x = k then some x else none) := by
  simp only [lastWith, List.reverse_cons, List.find?_append]
  by_cases h : key x = k <;> simp [h]

variable {key}

theorem lastWith_eq_some {xs : List α} {k : κ} {x : α} (h : lastWith key xs k = some x) : x ∈ xs ∧ key x = k := by
  refine ⟨List.mem_reverse.1 (List.mem_of_find?_eq_some h), ?_⟩
  simpa using List.find?_some h

theorem lastWith_eq_none {xs : List α} {k : κ} : lastWith key xs k = none ↔ ∀ x ∈ xs, key x ≠ k := by
  simp [lastWith, List.find?_eq_none]

/-- Where the keys are distinct, every element is the last with its key. -/
theorem lastWith_of_mem {xs : List α} (hnodup : (xs.map key).Nodup) {x : α} (hx : x ∈ xs) :
    lastWith key xs (key x) = some x := by
  induction xs with
  | nil => cases hx
  | cons y ys ih =>
    rw [List.map_cons, List.nodup_cons] at hnodup
    rw [lastWith_cons]
    rcases List.mem_cons.1 hx with rfl | hx
    · have hnone : lastWith key ys (key x) = none :=
        lastWith_eq_none.2 fun y hy heq => hnodup.1 (heq ▸ List.mem_map_of_mem hy)
      simp [hnone]
    · simp [ih hnodup.2 hx]

theorem lastWith_map {β : Type} {key' : β → κ} (f : α → β) (hf : ∀ x, key' (f x) = key x) (xs : List α) (k : κ) :
    lastWith key' (xs.map f) k = (lastWith key xs k).map f := by
  induction xs with
  | nil => rfl
  | cons x xs ih =>
    rw [List.map_cons, lastWith_cons, lastWith_cons, ih, hf]
    cases lastWith key xs k <;> by_cases h : key x = k <;> simp [h]

/-- A key-preserving selection from a list with distinct keys. -/
theorem lastWith_filterMap {β : Type} {key' : β → κ} {f : α → Option β} (hf : ∀ x y, f x = some y → key' y = key x)
    {xs : List α} (hnodup : (xs.map key).Nodup) (k : κ) :
    lastWith key' (xs.filterMap f) k = (lastWith key xs k).bind f := by
  induction xs with
  | nil => rfl
  | cons x xs ih =>
    rw [List.map_cons, List.nodup_cons] at hnodup
    have hrest := ih hnodup.2
    rw [lastWith_cons]
    by_cases hk : key x = k
    · have hnone : lastWith key xs k = none :=
        lastWith_eq_none.2 fun y hy heq => hnodup.1 (by rw [hk, ← heq]; exact List.mem_map_of_mem hy)
      rw [hnone] at hrest
      cases hfx : f x with
      | none => simp [hnone, hk, hfx, hrest]
      | some y => simp [hnone, hk, hfx, hrest, lastWith_cons, hf x y hfx]
    · cases hfx : f x with
      | none => simp [hk, hfx, hrest]
      | some y => simp [hk, hfx, hrest, lastWith_cons, hf x y hfx]

end

section

variable {α κ β : Type} {cmp : κ → κ → Ordering} [TransCmp cmp] [LawfulEqCmp cmp] [DecidableEq κ]

/-- **Insertions**: the last element with the key, or what the map had. -/
theorem getElem?_foldl_insert (key : α → κ) (value : α → β) (xs : List α) (m : ExtTreeMap κ β cmp) (k : κ) :
    (xs.foldl (fun m x => m.insert (key x) (value x)) m)[k]? = ((lastWith key xs k).map value).or m[k]? := by
  induction xs generalizing m with
  | nil => simp
  | cons x xs ih =>
    rw [List.foldl_cons, ih, lastWith_cons, ExtTreeMap.getElem?_insert]
    cases lastWith key xs k with
    | some y => simp
    | none => by_cases h : key x = k <;> simp [h]

/-- **Removals**: the keys of the list are gone. -/
theorem getElem?_foldl_erase (key : α → κ) (xs : List α) (m : ExtTreeMap κ β cmp) (k : κ) :
    (xs.foldl (fun m x => m.erase (key x)) m)[k]? = if (lastWith key xs k).isSome then none else m[k]? := by
  induction xs generalizing m with
  | nil => simp
  | cons x xs ih =>
    rw [List.foldl_cons, ih, lastWith_cons, ExtTreeMap.getElem?_erase]
    cases lastWith key xs k with
    | some y => simp
    | none => by_cases h : key x = k <;> simp [h]

omit [DecidableEq κ] in
theorem mem_values {m : ExtTreeMap κ β cmp} {v : β} : v ∈ m.toList.map Prod.snd ↔ ∃ k : κ, m[k]? = some v := by
  simp [ExtTreeMap.mem_toList_iff_getElem?_eq_some]

/-- The values of a map whose entries stand under their own key. -/
theorem lastWith_values {key : β → κ} {m : ExtTreeMap κ β cmp} (hkey : ∀ k v, m[k]? = some v → key v = k) (k : κ) :
    lastWith key (m.toList.map Prod.snd) k = m[k]? := by
  cases hget : m[k]? with
  | none =>
    rw [lastWith_eq_none]
    rintro v hv rfl
    obtain ⟨k', hk'⟩ := mem_values.1 hv
    rw [hkey k' v hk', hk'] at hget
    cases hget
  | some v =>
    cases hlast : lastWith key (m.toList.map Prod.snd) k with
    | none => exact absurd (hkey k v hget) (lastWith_eq_none.1 hlast v (mem_values.2 ⟨k, hget⟩))
    | some w =>
      obtain ⟨hw, rfl⟩ := lastWith_eq_some hlast
      obtain ⟨k', hk'⟩ := mem_values.1 hw
      rw [hkey k' w hk'] at hget
      rw [hk'] at hget
      exact hget

omit [DecidableEq κ] in
/-- Such values have distinct keys. -/
theorem nodup_values {key : β → κ} {m : ExtTreeMap κ β cmp} (hkey : ∀ k v, m[k]? = some v → key v = k) :
    ((m.toList.map Prod.snd).map key).Nodup := by
  have hfst : (m.toList.map Prod.snd).map key = m.toList.map Prod.fst := by
    rw [List.map_map]
    refine List.map_congr_left fun ⟨k, v⟩ hmem => ?_
    exact hkey k v (ExtTreeMap.mem_toList_iff_getElem?_eq_some.1 hmem)
  rw [hfst, List.Nodup, List.pairwise_map]
  refine ExtTreeMap.distinct_keys_toList.imp fun hne heq => ?_
  simp [heq] at hne

omit [DecidableEq κ] in
/-- They stand in the order of the keys. -/
theorem increasing_values {key : β → κ} {m : ExtTreeMap κ β cmp} (hkey : ∀ k v, m[k]? = some v → key v = k) :
    (m.toList.map Prod.snd).Pairwise fun a b => cmp (key a) (key b) = .lt := by
  rw [List.pairwise_map]
  refine ExtTreeMap.ordered_keys_toList.imp_of_mem ?_
  intro a b ha hb hlt
  rwa [hkey a.1 a.2 (ExtTreeMap.mem_toList_iff_getElem?_eq_some.1 ha),
    hkey b.1 b.2 (ExtTreeMap.mem_toList_iff_getElem?_eq_some.1 hb)]

end

end Lib
