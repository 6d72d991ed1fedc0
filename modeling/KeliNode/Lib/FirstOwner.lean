import Mathlib.Data.List.Basic

/-!
# First-come ownership

A list of requests, each wanting some points: a point belongs to the first request that wants it.
`firstOwner` names that request's target; the lemmas say how ownership changes when a request is
appended, which is what an allocation loop does.
-/

namespace Lib

section

variable {ρ π τ : Type} (wants : ρ → π → Bool) (target : ρ → τ)

/-- The target of the first request that wants `p`. -/
def firstOwner (requests : List ρ) (p : π) : Option τ :=
  (requests.find? fun r => wants r p).map target

variable {wants target} {requests : List ρ} {p : π}

@[simp] theorem firstOwner_nil : firstOwner wants target [] p = none := rfl

theorem firstOwner_append (earlier later : List ρ) :
    firstOwner wants target (earlier ++ later) p =
      (firstOwner wants target earlier p).or (firstOwner wants target later p) := by
  simp only [firstOwner, List.find?_append]
  cases earlier.find? fun r => wants r p <;> simp

/-- An appended request owns what it wants and no earlier request with another target owns. -/
theorem firstOwner_concat_eq_some {r : ρ} {t : τ} :
    firstOwner wants target (requests ++ [r]) p = some t ↔
      firstOwner wants target requests p = some t ∨
        (wants r p = true ∧ target r = t ∧ ∀ t', firstOwner wants target requests p = some t' → t' = t) := by
  rw [firstOwner_append]
  cases h : firstOwner wants target requests p with
  | none => cases hw : wants r p <;> simp [firstOwner, List.find?, hw]
  | some t₀ =>
    simp only [Option.some_or, Option.some.injEq, forall_eq']
    exact ⟨Or.inl, fun h => h.elim id fun h => h.2.2⟩

theorem exists_of_firstOwner {t : τ} (h : firstOwner wants target requests p = some t) :
    ∃ r ∈ requests, wants r p = true ∧ target r = t := by
  simp only [firstOwner, Option.map_eq_some_iff] at h
  obtain ⟨r, hr, ht⟩ := h
  exact ⟨r, List.mem_of_find?_eq_some hr, List.find?_some (p := fun r => wants r p) hr, ht⟩

variable (wants target) in
/-- A request that wants a point owns it, unless an earlier request with another target does. -/
theorem firstOwner_of_wants (earlier : List ρ) (r : ρ) (later : List ρ) (hw : wants r p = true) :
    firstOwner wants target (earlier ++ r :: later) p = some (target r) ∨
      ∃ r' ∈ earlier, wants r' p = true ∧ target r' ≠ target r ∧
        firstOwner wants target (earlier ++ r :: later) p = some (target r') := by
  rw [firstOwner_append]
  cases h : firstOwner wants target earlier p with
  | none =>
    refine Or.inl ?_
    simp [firstOwner, List.find?, hw]
  | some t₀ =>
    obtain ⟨r', hr', hw', ht'⟩ := exists_of_firstOwner h
    by_cases heq : t₀ = target r
    · exact Or.inl (by simp [heq])
    · exact Or.inr ⟨r', hr', hw', by rwa [ht'], by simp [ht']⟩

end

end Lib
