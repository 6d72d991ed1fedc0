import Mathlib.Data.List.Basic

/-!
# Loops that an item may end

`loopUntil` feeds items to a body that goes on with a new state or ends the loop with an outcome.  `Through`
says of a state that the items were all gone through, each as a relation allows.  The two are connected by what
the body does with one item: the loop goes through all the items or it ends at one of them, after it went through
those before.  `visited` collects the states in between.
-/

namespace Lib

section

variable {α σ ω : Type}

/-- Feeds the items to the body until one ends the loop. -/
def loopUntil (body : α → σ → Option ω × σ) : List α → σ → Option ω × σ
  | [], s => (none, s)
  | x :: xs, s =>
    match body x s with
    | (some outcome, s) => (some outcome, s)
    | (none, s) => loopUntil body xs s

/-- The items were gone through one after the other. -/
inductive Through (R : α → σ → σ → Prop) : List α → σ → σ → Prop
  | nil (s : σ) : Through R [] s s
  | cons {x : α} {xs : List α} {s t u : σ} (head : R x s t) (tail : Through R xs t u) : Through R (x :: xs) s u

/-- The items up to some point were gone through, and the next one does not go on. -/
def StopsAt (R : α → σ → σ → Prop) (Q : α → σ → Prop) (xs : List α) (s : σ) : Prop :=
  ∃ passed x rest mid, xs = passed ++ x :: rest ∧ Through R passed s mid ∧ Q x mid

variable {body : α → σ → Option ω × σ} {R : α → σ → σ → Prop} {Q : α → σ → Prop} {xs : List α} {s s' : σ}

theorem StopsAt.here {x : α} (h : Q x s) : StopsAt R Q (x :: xs) s := ⟨[], x, xs, s, rfl, .nil s, h⟩

theorem StopsAt.later {x : α} {t : σ} (hx : R x s t) (h : StopsAt R Q xs t) : StopsAt R Q (x :: xs) s := by
  obtain ⟨passed, y, rest, mid, rfl, hpassed, hy⟩ := h
  exact ⟨x :: passed, y, rest, mid, rfl, .cons hx hpassed, hy⟩

theorem StopsAt.cases {x : α} (h : StopsAt R Q (x :: xs) s) : Q x s ∨ ∃ t, R x s t ∧ StopsAt R Q xs t := by
  obtain ⟨passed, y, rest, mid, heq, hpassed, hy⟩ := h
  cases hpassed with
  | nil =>
    cases heq
    exact .inl hy
  | cons hx hpassed =>
    cases heq
    exact .inr ⟨_, hx, _, y, rest, mid, rfl, hpassed, hy⟩

theorem not_stopsAt_nil : ¬ StopsAt R Q [] s := by
  rintro ⟨passed, x, rest, mid, heq, -, -⟩
  exact absurd heq (by simp)

theorem stopsAt_and_left {p : Prop} : StopsAt R (fun x s => p ∧ Q x s) xs s ↔ p ∧ StopsAt R Q xs s := by
  constructor
  · rintro ⟨passed, x, rest, mid, heq, hpassed, hp, hx⟩
    exact ⟨hp, passed, x, rest, mid, heq, hpassed, hx⟩
  · rintro ⟨hp, passed, x, rest, mid, heq, hpassed, hx⟩
    exact ⟨passed, x, rest, mid, heq, hpassed, hp, hx⟩

/-- **The loop goes through**, where the items do that let the body go on. -/
theorem loopUntil_eq_none (hbody : ∀ x s s', body x s = (none, s') ↔ R x s s') :
    loopUntil body xs s = (none, s') ↔ Through R xs s s' := by
  induction xs generalizing s with
  | nil =>
    constructor
    · intro h
      cases h
      exact .nil _
    · intro h
      cases h
      rfl
  | cons x xs ih =>
    rw [loopUntil]
    cases hx : body x s with
    | mk outcome t =>
      cases outcome with
      | none =>
        simp only
        rw [ih]
        refine ⟨.cons ((hbody x s t).1 hx), fun h => ?_⟩
        cases h with
        | cons head tail =>
          rw [← hbody, hx] at head
          cases head
          exact tail
      | some outcome =>
        constructor
        · intro h
          cases h
        · intro h
          cases h with
          | cons head tail =>
            rw [← hbody, hx] at head
            cases head

/-- **The loop ends** with an outcome at the first item that does not go on, where that item has it. -/
theorem loopUntil_eq_some (hbody : ∀ x s s', body x s = (none, s') ↔ R x s s') {outcome : ω}
    (hstop : ∀ x s, (body x s).1 = some outcome ↔ Q x s) :
    (loopUntil body xs s).1 = some outcome ↔ StopsAt R Q xs s := by
  induction xs generalizing s with
  | nil => exact ⟨fun h => (by cases h), fun h => absurd h not_stopsAt_nil⟩
  | cons x xs ih =>
    have hx := hstop x s
    rw [loopUntil]
    cases hrun : body x s with
    | mk found t =>
      rw [hrun] at hx
      cases found with
      | none =>
        simp only
        rw [ih]
        refine ⟨.later ((hbody x s t).1 hrun), fun h => ?_⟩
        rcases h.cases with h | ⟨u, hu, h⟩
        · exact absurd (hx.2 h) (by simp)
        · rw [← hbody, hrun] at hu
          cases hu
          exact h
      | some found =>
        simp only at hx ⊢
        rw [hx]
        refine ⟨.here, fun h => ?_⟩
        rcases h.cases with h | ⟨u, hu, -⟩
        · exact h
        · rw [← hbody, hrun] at hu
          cases hu

/-- A loop that went through the items goes on with the next one. -/
theorem loopUntil_concat (h : loopUntil body xs s = (none, s')) (x : α) :
    loopUntil body (xs ++ [x]) s = body x s' := by
  induction xs generalizing s with
  | nil =>
    cases h
    rw [List.nil_append, loopUntil]
    cases body x s' with
    | mk outcome t => cases outcome <;> rfl
  | cons y ys ih =>
    rw [loopUntil] at h
    rw [List.cons_append, loopUntil]
    cases hy : body y s with
    | mk outcome t =>
      rw [hy] at h
      cases outcome with
      | none => exact ih h
      | some outcome => cases h

/-- **Invariant rule**: what the body keeps for every item, the loop keeps, also where it ends. -/
theorem loopUntil_invariant {Inv : σ → Prop} (hbody : ∀ x ∈ xs, ∀ s, Inv s → Inv (body x s).2) (h : Inv s) :
    Inv (loopUntil body xs s).2 := by
  induction xs generalizing s with
  | nil => exact h
  | cons x xs ih =>
    obtain ⟨hx, hxs⟩ := List.forall_mem_cons.1 hbody
    have hnext := hx s h
    rw [loopUntil]
    cases hrun : body x s with
    | mk outcome t =>
      rw [hrun] at hnext
      cases outcome with
      | none => exact ih hxs hnext
      | some outcome => exact hnext

/-! ## The states in between -/

/-- The states a loop comes through: for each item those its body comes through, up to the one the loop ends at. -/
def visited (inner : α → σ → List σ) (body : α → σ → Option ω × σ) : List α → σ → List σ
  | [], _ => []
  | x :: xs, s =>
    match body x s with
    | (some _, _) => inner x s
    | (none, t) => inner x s ++ visited inner body xs t

/-- **Invariant rule**: what the body keeps, and what holds of the states it comes through, holds of all of them. -/
theorem visited_invariant {inner : α → σ → List σ} {Inv : σ → Prop}
    (hinner : ∀ x ∈ xs, ∀ s, Inv s → ∀ t ∈ inner x s, Inv t) (hbody : ∀ x ∈ xs, ∀ s, Inv s → Inv (body x s).2)
    (h : Inv s) : ∀ t ∈ visited inner body xs s, Inv t := by
  induction xs generalizing s with
  | nil => exact fun _ ht => by cases ht
  | cons x xs ih =>
    obtain ⟨hin, hins⟩ := List.forall_mem_cons.1 hinner
    obtain ⟨hx, hxs⟩ := List.forall_mem_cons.1 hbody
    have hnext := hx s h
    rw [visited]
    cases hrun : body x s with
    | mk outcome t =>
      rw [hrun] at hnext
      cases outcome with
      | none =>
        intro u hu
        rcases List.mem_append.1 hu with hu | hu
        · exact hin s h u hu
        · exact ih hins hxs hnext u hu
      | some outcome => exact hin s h

end

end Lib
