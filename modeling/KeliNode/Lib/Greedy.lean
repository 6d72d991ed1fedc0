import Mathlib.Data.List.Basic

/-!
# Greedy selection

Items come with specs, and specs may conflict.  Going through a list, the greedy selection keeps an item that
conflicts with no kept one and drops the others.  What it keeps is free of conflicts, and what it drops conflicts with
something kept before it (`kept_pairwise`, `kept_at`, `blocked_kept_iff`).

A pass that notes the specs of an item one by one and stops at the first conflict leaves some specs of dropped items
behind; `Selection.left` is what such a pass has noted for nothing, and `Clear` says that nothing kept meets it.
-/

namespace Lib

section

variable {α σ : Type} (specs : α → List σ) (conflict : σ → σ → Bool)

/-- Some spec of the item conflicts with one of the noted specs. -/
def blocked (noted : List σ) (x : α) : Bool := (specs x).any fun spec => noted.any (conflict · spec)

theorem blocked_iff {noted : List σ} {x : α} : blocked specs conflict noted x = true ↔
    ∃ spec ∈ specs x, ∃ old ∈ noted, conflict old spec = true := by
  simp only [blocked, List.any_eq_true]

structure Selection (α σ : Type) where
  kept : List α := []
  dropped : List α := []
  left : List σ := []

namespace Selection

def keptSpecs (s : Selection α σ) : List σ := s.kept.flatMap specs

/-- Keep an item or drop it; of a dropped one, the specs before its first conflict are left. -/
def step (s : Selection α σ) (x : α) : Selection α σ :=
  if blocked specs conflict (s.keptSpecs specs) x then
    { s with
      dropped := s.dropped ++ [x]
      left := s.left ++ (specs x).takeWhile fun spec => !(s.keptSpecs specs ++ s.left).any (conflict · spec) }
  else { s with kept := s.kept ++ [x] }

def run (s : Selection α σ) (xs : List α) : Selection α σ := xs.foldl (step specs conflict) s

/-- No item is kept that conflicts with what is left of a dropped one. -/
def Clear : Selection α σ → List α → Prop
  | _, [] => True
  | s, x :: xs =>
    (blocked specs conflict (s.keptSpecs specs) x = false → blocked specs conflict s.left x = false) ∧
      Clear (s.step specs conflict x) xs

instance decidableClear (s : Selection α σ) : (xs : List α) → Decidable (Clear specs conflict s xs)
  | [] => inferInstanceAs (Decidable True)
  | x :: xs =>
    have := decidableClear (s.step specs conflict x) xs
    inferInstanceAs (Decidable (_ ∧ _))

variable {specs conflict} {s : Selection α σ} {x : α} {xs before after : List α}

/-! ## One item -/

theorem step_kept (h : blocked specs conflict (s.keptSpecs specs) x = false) :
    (s.step specs conflict x).kept = s.kept ++ [x] ∧ (s.step specs conflict x).dropped = s.dropped ∧
      (s.step specs conflict x).left = s.left := by
  rw [step, if_neg (by simp [h])]
  exact ⟨rfl, rfl, rfl⟩

theorem step_dropped (h : blocked specs conflict (s.keptSpecs specs) x = true) :
    (s.step specs conflict x).kept = s.kept ∧ (s.step specs conflict x).dropped = s.dropped ++ [x] ∧
      (s.step specs conflict x).left =
        s.left ++ (specs x).takeWhile fun spec => !(s.keptSpecs specs ++ s.left).any (conflict · spec) := by
  rw [step, if_pos h]
  exact ⟨rfl, rfl, rfl⟩

theorem keptSpecs_step_kept (h : blocked specs conflict (s.keptSpecs specs) x = false) :
    (s.step specs conflict x).keptSpecs specs = s.keptSpecs specs ++ specs x := by
  rw [keptSpecs, (step_kept h).1, List.flatMap_append, List.flatMap_singleton]
  rfl

theorem keptSpecs_step_dropped (h : blocked specs conflict (s.keptSpecs specs) x = true) :
    (s.step specs conflict x).keptSpecs specs = s.keptSpecs specs := by
  rw [keptSpecs, (step_dropped h).1]
  rfl

theorem kept_subset_step : s.kept ⊆ (s.step specs conflict x).kept := by
  cases h : blocked specs conflict (s.keptSpecs specs) x with
  | false =>
    rw [(step_kept h).1]
    exact List.subset_append_left _ _
  | true =>
    rw [(step_dropped h).1]
    exact List.Subset.refl _

theorem dropped_subset_step : s.dropped ⊆ (s.step specs conflict x).dropped := by
  cases h : blocked specs conflict (s.keptSpecs specs) x with
  | false =>
    rw [(step_kept h).2.1]
    exact List.Subset.refl _
  | true =>
    rw [(step_dropped h).2.1]
    exact List.subset_append_left _ _

theorem mem_step : x ∈ (s.step specs conflict x).kept ∨ x ∈ (s.step specs conflict x).dropped := by
  cases h : blocked specs conflict (s.keptSpecs specs) x with
  | false =>
    rw [(step_kept h).1]
    exact .inl (List.mem_append_right _ List.mem_cons_self)
  | true =>
    rw [(step_dropped h).2.1]
    exact .inr (List.mem_append_right _ List.mem_cons_self)

/-! ## A run -/

theorem run_cons : s.run specs conflict (x :: xs) = (s.step specs conflict x).run specs conflict xs := rfl

theorem run_append : s.run specs conflict (before ++ after) =
    (s.run specs conflict before).run specs conflict after := List.foldl_append

theorem subset_run : s.kept ⊆ (s.run specs conflict xs).kept ∧ s.dropped ⊆ (s.run specs conflict xs).dropped := by
  induction xs generalizing s with
  | nil => exact ⟨List.Subset.refl _, List.Subset.refl _⟩
  | cons x xs ih =>
    obtain ⟨hkept, hdropped⟩ := ih (s := s.step specs conflict x)
    exact ⟨List.Subset.trans kept_subset_step hkept, List.Subset.trans dropped_subset_step hdropped⟩

/-- Every item is kept or dropped. -/
theorem mem_run (h : x ∈ xs) : x ∈ (s.run specs conflict xs).kept ∨ x ∈ (s.run specs conflict xs).dropped := by
  induction xs generalizing s with
  | nil => cases h
  | cons y xs ih =>
    rw [run_cons]
    rcases List.mem_cons.1 h with rfl | h
    · exact mem_step.imp (subset_run.1 ·) (subset_run.2 ·)
    · exact ih h

/-- Where an item that is kept has its place, nothing kept before it conflicts with it. -/
theorem kept_at (h : x ∈ (s.run specs conflict xs).kept) : x ∈ s.kept ∨ ∃ before after, xs = before ++ x :: after ∧
    blocked specs conflict ((s.run specs conflict before).keptSpecs specs) x = false := by
  induction xs generalizing s with
  | nil => exact .inl h
  | cons y xs ih =>
    rcases ih h with h | ⟨before, after, rfl, hfree⟩
    · cases hy : blocked specs conflict (s.keptSpecs specs) y with
      | true =>
        rw [(step_dropped hy).1] at h
        exact .inl h
      | false =>
        rw [(step_kept hy).1] at h
        rcases List.mem_append.1 h with h | h
        · exact .inl h
        · rcases List.mem_singleton.1 h with rfl
          exact .inr ⟨[], xs, rfl, hy⟩
    · exact .inr ⟨y :: before, after, rfl, hfree⟩

/-- The first item is kept if nothing kept so far conflicts with it. -/
theorem head_kept (h : blocked specs conflict (s.keptSpecs specs) x = false) :
    x ∈ (s.run specs conflict (x :: xs)).kept := by
  have hsubset : (s.step specs conflict x).kept ⊆ (s.run specs conflict (x :: xs)).kept := subset_run.1
  refine hsubset ?_
  rw [(step_kept h).1]
  exact List.mem_append_right _ List.mem_cons_self

/-- An item at a place where nothing kept conflicts with it is kept. -/
theorem mem_kept_of_free (h : blocked specs conflict ((s.run specs conflict before).keptSpecs specs) x = false) :
    x ∈ (s.run specs conflict (before ++ x :: after)).kept := by
  rw [run_append]
  exact head_kept h

/-- An item is blocked by the kept items if it conflicts with one of them. -/
theorem blocked_kept_iff : blocked specs conflict (s.keptSpecs specs) x = true ↔
    ∃ a ∈ s.kept, blocked specs conflict (specs a) x = true := by
  simp only [blocked_iff, keptSpecs, List.mem_flatMap]
  constructor
  · rintro ⟨spec, hspec, old, ⟨a, ha, hold⟩, hconflict⟩
    exact ⟨a, ha, spec, hspec, old, hold, hconflict⟩
  · rintro ⟨a, ha, spec, hspec, old, hold, hconflict⟩
    exact ⟨spec, hspec, old, ⟨a, ha, hold⟩, hconflict⟩

theorem not_blocked_of_kept (h : blocked specs conflict (s.keptSpecs specs) x = false) {a : α} (ha : a ∈ s.kept) :
    blocked specs conflict (specs a) x = false := by
  cases hconflict : blocked specs conflict (specs a) x with
  | false => rfl
  | true =>
    rw [blocked_kept_iff.2 ⟨a, ha, hconflict⟩] at h
    cases h

/-- What is kept is free of conflicts. -/
theorem kept_pairwise (h : s.kept.Pairwise fun a b => blocked specs conflict (specs a) b = false) :
    (s.run specs conflict xs).kept.Pairwise fun a b => blocked specs conflict (specs a) b = false := by
  induction xs generalizing s with
  | nil => exact h
  | cons x xs ih =>
    refine ih ?_
    cases hx : blocked specs conflict (s.keptSpecs specs) x with
    | true =>
      rw [(step_dropped hx).1]
      exact h
    | false =>
      rw [(step_kept hx).1]
      refine List.pairwise_append.2 ⟨h, List.pairwise_singleton _ _, fun a ha b hb => ?_⟩
      rcases List.mem_singleton.1 hb with rfl
      exact not_blocked_of_kept hx ha

/-- Where a test tells kept items from dropped ones, both lists are what the test makes of the items. -/
theorem run_eq_filter {test : α → Bool} (hkept : ∀ a ∈ (s.run specs conflict xs).kept, test a = true)
    (hdropped : ∀ a ∈ (s.run specs conflict xs).dropped, test a = false) :
    (s.run specs conflict xs).kept = s.kept ++ xs.filter test ∧
      (s.run specs conflict xs).dropped = s.dropped ++ xs.filter fun x => !test x := by
  induction xs generalizing s with
  | nil => exact ⟨(List.append_nil _).symm, (List.append_nil _).symm⟩
  | cons x xs ih =>
    obtain ⟨hk, hd⟩ := ih hkept hdropped
    rw [run_cons, hk, hd]
    cases hx : blocked specs conflict (s.keptSpecs specs) x with
    | true =>
      have hmem : x ∈ (s.step specs conflict x).dropped := by
        rw [(step_dropped hx).2.1]
        exact List.mem_append_right _ List.mem_cons_self
      have hsubset : (s.step specs conflict x).dropped ⊆ (s.run specs conflict (x :: xs)).dropped := subset_run.2
      have htest := hdropped x (hsubset hmem)
      rw [(step_dropped hx).1, (step_dropped hx).2.1, List.filter_cons_of_neg (by simp [htest]),
        List.filter_cons_of_pos (by simp [htest]), List.append_assoc]
      exact ⟨rfl, rfl⟩
    | false =>
      rw [(step_kept hx).1, (step_kept hx).2.1, List.filter_cons_of_pos (hkept x (head_kept hx)),
        List.filter_cons_of_neg (by simp [hkept x (head_kept hx)]), List.append_assoc]
      exact ⟨rfl, rfl⟩

/-- Without some of the items it drops, the selection keeps what it kept. -/
theorem run_filter {test : α → Bool} {t : Selection α σ} (htest : ∀ a ∈ (s.run specs conflict xs).kept, test a = true)
    (hkept : t.kept = s.kept) (hdropped : t.dropped = s.dropped.filter test) :
    (t.run specs conflict (xs.filter test)).kept = (s.run specs conflict xs).kept ∧
      (t.run specs conflict (xs.filter test)).dropped = (s.run specs conflict xs).dropped.filter test := by
  induction xs generalizing s t with
  | nil => exact ⟨hkept, hdropped⟩
  | cons x xs ih =>
    have hspecs : t.keptSpecs specs = s.keptSpecs specs := by rw [keptSpecs, hkept, keptSpecs]
    cases hx : blocked specs conflict (s.keptSpecs specs) x with
    | false =>
      obtain ⟨hs, hsd, -⟩ := step_kept hx
      obtain ⟨ht, htd, -⟩ := step_kept (s := t) (hspecs ▸ hx)
      rw [List.filter_cons_of_pos (htest x (head_kept hx))]
      exact ih htest (by rw [ht, hs, hkept]) (by rw [htd, hsd, hdropped])
    | true =>
      obtain ⟨hs, hsd, -⟩ := step_dropped hx
      cases hkeep : test x with
      | true =>
        obtain ⟨ht, htd, -⟩ := step_dropped (s := t) (hspecs ▸ hx)
        rw [List.filter_cons_of_pos hkeep]
        refine ih htest (by rw [ht, hs, hkept]) ?_
        rw [htd, hsd, hdropped, List.filter_append, List.filter_cons_of_pos hkeep]
        rfl
      | false =>
        rw [List.filter_cons_of_neg (by simp [hkeep])]
        refine ih htest (by rw [hs, hkept]) ?_
        rw [hsd, hdropped, List.filter_append, List.filter_cons_of_neg (by simp [hkeep])]
        exact (List.append_nil _).symm

theorem kept_subset (h : x ∈ (Selection.run specs conflict {} xs).kept) : x ∈ xs := by
  rcases kept_at h with h | ⟨before, after, rfl, -⟩
  · cases h
  · exact List.mem_append_right _ List.mem_cons_self

/-! ## Leftovers -/

theorem Clear.of_append (h : Clear specs conflict s (before ++ after)) : Clear specs conflict s before := by
  induction before generalizing s with
  | nil => exact trivial
  | cons x before ih => exact ⟨h.1, ih h.2⟩

/-- A run that is not clear has a first item that is kept and meets a leftover. -/
theorem exists_of_not_clear (h : ¬Clear specs conflict s xs) : ∃ before x after, xs = before ++ x :: after ∧
    Clear specs conflict s before ∧ blocked specs conflict ((s.run specs conflict before).keptSpecs specs) x = false ∧
    blocked specs conflict (s.run specs conflict before).left x = true := by
  induction xs generalizing s with
  | nil => exact absurd trivial h
  | cons x xs ih =>
    by_cases hx : blocked specs conflict (s.keptSpecs specs) x = false → blocked specs conflict s.left x = false
    · obtain ⟨before, y, after, rfl, hclear, hfree, hleft⟩ := ih fun hclear => h ⟨hx, hclear⟩
      exact ⟨x :: before, y, after, rfl, ⟨hx, hclear⟩, hfree, hleft⟩
    · simp only [Classical.not_imp, Bool.not_eq_false] at hx
      exact ⟨[], x, xs, rfl, trivial, hx⟩

end Selection

end

end Lib
