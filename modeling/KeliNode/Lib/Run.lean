import Mathlib.Data.List.Basic

/-!
# Runs of a step that may stop

A run feeds a list of inputs to a step function and ends at the first input that leaves no next state.
`Along` says that something holds of every step taken; `Along.of_invariant` is the rule that carries an
invariant along a run whose steps all meet a condition.
-/

namespace Lib

section

variable {σ α : Type} {next : σ → α → Option σ}

/-- `P` holds of every step of the run, with the state before it. -/
def Along (next : σ → α → Option σ) (P : σ → α → Prop) : List α → σ → Prop
  | [], _ => True
  | input :: inputs, s => P s input ∧ ∀ s', next s input = some s' → Along next P inputs s'

/-- **Invariant rule**: what one good step gives from the invariant, every step of a good run gives. -/
theorem Along.of_invariant {Inv : σ → Prop} {Good Post : σ → α → Prop}
    (hstep : ∀ s input, Inv s → Good s input → Post s input ∧ ∀ s', next s input = some s' → Inv s') :
    ∀ {inputs : List α} {s : σ}, Inv s → Along next Good inputs s → Along next Post inputs s := by
  intro inputs
  induction inputs with
  | nil => exact fun _ _ => trivial
  | cons input inputs ih =>
    intro s hinv hgood
    obtain ⟨hpost, hnext⟩ := hstep s input hinv hgood.1
    exact ⟨hpost, fun s' hs' => ih (hnext s' hs') (hgood.2 s' hs')⟩

theorem Along.imp {P Q : σ → α → Prop} (himp : ∀ s input, P s input → Q s input) :
    ∀ {inputs : List α} {s : σ}, Along next P inputs s → Along next Q inputs s := by
  intro inputs
  induction inputs with
  | nil => exact fun _ => trivial
  | cons input inputs ih =>
    intro s h
    exact ⟨himp s input h.1, fun s' hs' => ih (h.2 s' hs')⟩

instance Along.decide {P : σ → α → Prop} [∀ s input, Decidable (P s input)] :
    ∀ (inputs : List α) (s : σ), Decidable (Along next P inputs s)
  | [], _ => isTrue trivial
  | input :: inputs, s =>
    match hnext : next s input with
    | none => decidable_of_iff (P s input) ⟨fun h => ⟨h, fun s' hs' => by rw [hnext] at hs'; cases hs'⟩, fun h => h.1⟩
    | some s' =>
      have : Decidable (Along next P inputs s') := Along.decide inputs s'
      decidable_of_iff (P s input ∧ Along next P inputs s')
        ⟨fun h => ⟨h.1, fun t ht => by rw [hnext] at ht; cases ht; exact h.2⟩, fun h => ⟨h.1, h.2 s' hnext⟩⟩

end

end Lib
