import Mathlib.Data.List.Basic

/-!
# Runs of labelled steps

`next s label` is the state after a step, where the label can be taken in `s`.  `runLabels` takes a list of labels
one after the other.  What every step keeps, a run keeps (`runLabels_invariant`); where every step pays for itself
out of a rank, the cost of a run is bounded by the rank it started with (`runLabels_cost_le`).
-/

namespace Lib

section

variable {σ α : Type} {next : σ → α → Option σ} {labels : List α} {s s' : σ}

def runLabels (next : σ → α → Option σ) : List α → σ → Option σ
  | [], s => some s
  | label :: labels, s => (next s label).bind (runLabels next labels)

theorem runLabels_cons {label : α} :
    runLabels next (label :: labels) s = some s' ↔ ∃ t, next s label = some t ∧ runLabels next labels t = some s' := by
  rw [runLabels, Option.bind_eq_some_iff]

/-- **Invariant rule.** -/
theorem runLabels_invariant {Inv : σ → Prop} (hstep : ∀ s label s', Inv s → next s label = some s' → Inv s')
    (hstart : Inv s) (hrun : runLabels next labels s = some s') : Inv s' := by
  induction labels generalizing s with
  | nil =>
    cases hrun
    exact hstart
  | cons label labels ih =>
    obtain ⟨t, ht, hrest⟩ := runLabels_cons.1 hrun
    exact ih (hstep s label t hstart ht) hrest

/-- **Cost rule**: as long as the run is live, a step that costs takes one off the rank, and one that earns adds `gain`
to it at the most. -/
theorem runLabels_cost_le {Live : σ → Prop} {rank : σ → Nat} {costs earns : α → Bool} {gain : Nat}
    (hstep : ∀ s label s', next s label = some s' → Live s' →
      Live s ∧ rank s' + (if costs label then 1 else 0) ≤ rank s + if earns label then gain else 0)
    (hrun : runLabels next labels s = some s') (hlive : Live s') :
    Live s ∧ rank s' + labels.countP costs ≤ rank s + gain * labels.countP earns := by
  induction labels generalizing s with
  | nil =>
    cases hrun
    exact ⟨hlive, by simp⟩
  | cons label labels ih =>
    obtain ⟨t, ht, hrest⟩ := runLabels_cons.1 hrun
    obtain ⟨hlivet, hle⟩ := ih hrest
    obtain ⟨hlives, hfirst⟩ := hstep s label t ht hlivet
    refine ⟨hlives, ?_⟩
    rw [List.countP_cons, List.countP_cons, Nat.mul_add]
    have hgain : gain * (if earns label then 1 else 0) = if earns label then gain else 0 := by split <;> simp
    omega

end

end Lib
