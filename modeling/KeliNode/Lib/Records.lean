import Mathlib.Data.List.Nodup

/-!
# Records in a row

Two kinds of records of one width, written one after the other with nothing between the kinds: when no record of one
kind reads as one of the other, the row determines both lists (`records_inj`).  And a search by a key that no two
items share does not depend on the order of the list (`find?_eq_of_perm`).
-/

namespace Lib

section

variable {α β γ : Type} {width : Nat} {f : α → List γ} {g : β → List γ}

theorem flatMap_inj (hpos : 0 < width) (hf : ∀ a, (f a).length = width) : ∀ {xs ys : List α},
    xs.flatMap f = ys.flatMap f → xs.map f = ys.map f
  | [], [], _ => rfl
  | [], y :: ys, h => by
    have hlen := congrArg List.length h
    simp only [List.flatMap_nil, List.length_nil, List.flatMap_cons, List.length_append, hf] at hlen
    omega
  | x :: xs, [], h => by
    have hlen := congrArg List.length h
    simp only [List.flatMap_nil, List.length_nil, List.flatMap_cons, List.length_append, hf] at hlen
    omega
  | x :: xs, y :: ys, h => by
    rw [List.flatMap_cons, List.flatMap_cons] at h
    obtain ⟨hxy, hrest⟩ := List.append_inj h (by rw [hf, hf])
    rw [List.map_cons, List.map_cons, hxy, flatMap_inj hpos hf hrest]

/-- **The row determines both lists.** -/
theorem records_inj (hpos : 0 < width) (hf : ∀ a, (f a).length = width) (hg : ∀ b, (g b).length = width)
    (hfg : ∀ a b, f a ≠ g b) : ∀ {xs ys : List α} {us vs : List β},
    xs.flatMap f ++ us.flatMap g = ys.flatMap f ++ vs.flatMap g → xs.map f = ys.map f ∧ us.map g = vs.map g
  | [], [], us, vs, h => ⟨rfl, flatMap_inj hpos hg h⟩
  | [], y :: ys, us, vs, h => by
    cases us with
    | nil =>
      have hlen := congrArg List.length h
      simp only [List.flatMap_nil, List.length_nil, List.nil_append, List.flatMap_cons, List.length_append, hf] at hlen
      omega
    | cons u us =>
      rw [List.flatMap_nil, List.nil_append, List.flatMap_cons, List.flatMap_cons, List.append_assoc] at h
      exact absurd (List.append_inj h (by rw [hf, hg])).1.symm (hfg y u)
  | x :: xs, [], us, vs, h => by
    cases vs with
    | nil =>
      have hlen := congrArg List.length h
      simp only [List.flatMap_nil, List.length_nil, List.nil_append, List.flatMap_cons, List.length_append, hf] at hlen
      omega
    | cons v vs =>
      rw [List.flatMap_nil, List.nil_append, List.flatMap_cons, List.flatMap_cons, List.append_assoc] at h
      exact absurd (List.append_inj h (by rw [hf, hg])).1 (hfg x v)
  | x :: xs, y :: ys, us, vs, h => by
    rw [List.flatMap_cons, List.flatMap_cons, List.append_assoc, List.append_assoc] at h
    obtain ⟨hxy, hrest⟩ := List.append_inj h (by rw [hf, hf])
    obtain ⟨hmap, hrest⟩ := records_inj hpos hf hg hfg hrest
    exact ⟨by rw [List.map_cons, List.map_cons, hxy, hmap], hrest⟩

end

/-- Items with different keys are found in any order. -/
theorem find?_eq_of_perm {α κ : Type} [DecidableEq κ] {key : α → κ} {xs ys : List α} (h : xs.Perm ys)
    (hnodup : (xs.map key).Nodup) (k : κ) : xs.find? (fun x => key x = k) = ys.find? (fun x => key x = k) := by
  have hunique : ∀ x ∈ xs, ∀ y ∈ xs, key x = key y → x = y := fun x hx y hy => List.inj_on_of_nodup_map hnodup hx hy
  cases hx : xs.find? (fun x => key x = k) with
  | none =>
    symm
    rw [List.find?_eq_none] at hx ⊢
    exact fun y hy => hx y (h.mem_iff.2 hy)
  | some x =>
    have hxs := List.mem_of_find?_eq_some hx
    have hkey := List.find?_some hx
    cases hy : ys.find? (fun x => key x = k) with
    | none =>
      rw [List.find?_eq_none] at hy
      exact absurd hkey (hy x (h.mem_iff.1 hxs))
    | some y =>
      have hys := h.mem_iff.2 (List.mem_of_find?_eq_some hy)
      have hkey' := List.find?_some hy
      rw [decide_eq_true_eq] at hkey hkey'
      rw [hunique x hxs y hys (hkey.trans hkey'.symm)]

end Lib
