import Mathlib.Data.List.Forall2

/-!
# Computations that may fail

What a successful `Except` computation went through: the steps of a bind, of a `mapM` and of a `foldlM`; and two
computations that fail together (`Agrees`).
-/

namespace Lib

section

variable {ε α β : Type}

theorem bind_eq_ok {x : Except ε α} {f : α → Except ε β} {r : β} :
    (x >>= f) = .ok r ↔ ∃ a, x = .ok a ∧ f a = .ok r := by
  cases x with
  | error e => exact ⟨(by intro h; cases h), (by rintro ⟨_, h, _⟩; cases h)⟩
  | ok a => exact ⟨fun h => ⟨a, rfl, h⟩, (by rintro ⟨_, ⟨rfl⟩, h⟩; exact h)⟩

theorem map_eq_ok {x : Except ε α} {f : α → β} {r : β} : x.map f = .ok r ↔ ∃ a, x = .ok a ∧ f a = r := by
  cases x with
  | error e => exact ⟨(by intro h; cases h), (by rintro ⟨_, h, _⟩; cases h)⟩
  | ok a => exact ⟨(by rintro ⟨rfl⟩; exact ⟨a, rfl, rfl⟩), (by rintro ⟨_, ⟨rfl⟩, rfl⟩; rfl)⟩

theorem map_eq_error {x : Except ε α} {f : α → β} {e : ε} (h : x.map f = .error e) : x = .error e := by
  cases x with
  | error e' => rw [Except.error.inj (h : Except.error e' = .error e)]
  | ok a => cases h

theorem exists_ok {x : Except ε α} (h : x.toOption.isSome = true) : ∃ a, x = .ok a := by
  cases x with
  | error e => cases h
  | ok a => exact ⟨a, rfl⟩

/-- The items of a successful `mapM`, one by one. -/
theorem forall₂_of_mapM_ok {f : α → Except ε β} {xs : List α} {ys : List β} (h : xs.mapM f = .ok ys) :
    List.Forall₂ (fun x y => f x = .ok y) xs ys := by
  induction xs generalizing ys with
  | nil => cases h; exact .nil
  | cons x xs ih =>
    rw [List.mapM_cons, bind_eq_ok] at h
    obtain ⟨y, hy, h⟩ := h
    rw [bind_eq_ok] at h
    obtain ⟨ys', hys, h⟩ := h
    cases h
    exact .cons hy (ih hys)

theorem mapM_ok_of_forall₂ {f : α → Except ε β} {xs : List α} {ys : List β}
    (h : List.Forall₂ (fun x y => f x = .ok y) xs ys) : xs.mapM f = .ok ys := by
  induction h with
  | nil => rfl
  | cons hxy _ ih => rw [List.mapM_cons, hxy, ih]; rfl

/-- A `mapM` whose results are determined by a function. -/
theorem eq_map_of_mapM_ok {f : α → Except ε β} {g : α → β} (hf : ∀ x y, f x = .ok y → y = g x) {xs : List α}
    {ys : List β} (h : xs.mapM f = .ok ys) : ys = xs.map g := by
  have hall := (forall₂_of_mapM_ok h).imp hf
  clear h
  induction hall with
  | nil => rfl
  | cons hxy _ ih => rw [List.map_cons, ← hxy, ← ih]

theorem exists_of_forall₂ {R : α → β → Prop} {xs : List α} {ys : List β} (h : List.Forall₂ R xs ys) {y : β}
    (hy : y ∈ ys) : ∃ x ∈ xs, R x y := by
  induction h with
  | nil => cases hy
  | @cons x y' xs ys hxy _ ih =>
    rcases List.mem_cons.1 hy with rfl | hy
    · exact ⟨x, List.mem_cons_self, hxy⟩
    · obtain ⟨x', hx', hxy'⟩ := ih hy
      exact ⟨x', List.mem_cons_of_mem _ hx', hxy'⟩

theorem exists_right_of_forall₂ {R : α → β → Prop} {xs : List α} {ys : List β} (h : List.Forall₂ R xs ys) {x : α}
    (hx : x ∈ xs) : ∃ y ∈ ys, R x y :=
  exists_of_forall₂ h.flip hx

theorem getElem?_of_forall₂ {R : α → β → Prop} {xs : List α} {ys : List β} (h : List.Forall₂ R xs ys) {i : Nat} {x : α}
    (hx : xs[i]? = some x) : ∃ y, ys[i]? = some y ∧ R x y := by
  induction h generalizing i with
  | nil => cases hx
  | @cons x' y' xs ys hxy _ ih =>
    cases i with
    | zero =>
      cases hx
      exact ⟨y', rfl, hxy⟩
    | succ i => exact ih hx

section

variable {wanted : α → Bool} {R : α → β → Prop} {xs : List α} {found : List (Option β)}

/-- Where exactly the wanted items have a result, the results stand for the wanted items in their order. -/
theorem forall₂_filter_filterMap
    (h : List.Forall₂ (fun x y => (wanted x = false ∧ y = none) ∨ ∃ z, wanted x = true ∧ y = some z ∧ R x z) xs found) :
    List.Forall₂ R (xs.filter wanted) (found.filterMap id) := by
  induction h with
  | nil => exact .nil
  | @cons x y xs found hxy _ ih =>
    rcases hxy with ⟨hnot, rfl⟩ | ⟨z, hwanted, rfl, hz⟩
    · rw [List.filter_cons_of_neg (by simp [hnot])]
      exact ih
    · rw [List.filter_cons_of_pos hwanted]
      exact .cons hz ih

theorem length_filterMap_le (h : List.Forall₂ (fun x y => y.isSome = true → wanted x = true) xs found) :
    (found.filterMap id).length ≤ (xs.filter wanted).length := by
  induction h with
  | nil => exact Nat.le_refl 0
  | @cons x y xs found hxy _ ih =>
    cases y with
    | none =>
      have hle : (xs.filter wanted).length ≤ ((x :: xs).filter wanted).length :=
        ((List.sublist_cons_self x xs).filter wanted).length_le
      rw [List.filterMap_cons_none rfl]
      omega
    | some z =>
      rw [List.filter_cons_of_pos (hxy rfl), List.filterMap_cons_some (f := id) rfl, List.length_cons, List.length_cons]
      omega

/-- Where there are as many results as wanted items, every wanted item has one. -/
theorem isSome_of_length (h : List.Forall₂ (fun x y => y.isSome = true → wanted x = true) xs found)
    (hlength : (xs.filter wanted).length = (found.filterMap id).length) :
    List.Forall₂ (fun x y => wanted x = true → y.isSome = true) xs found := by
  induction h with
  | nil => exact .nil
  | @cons x y xs found hxy hall ih =>
    have hle := length_filterMap_le hall
    by_cases hwanted : wanted x = true
    · rw [List.filter_cons_of_pos hwanted, List.length_cons] at hlength
      cases y with
      | none =>
        rw [List.filterMap_cons_none rfl] at hlength
        omega
      | some z =>
        rw [List.filterMap_cons_some (f := id) rfl, List.length_cons] at hlength
        exact .cons (fun _ => rfl) (ih (by omega))
    · cases y with
      | none =>
        rw [List.filter_cons_of_neg hwanted] at hlength
        exact .cons (fun h => absurd h hwanted) (ih hlength)
      | some z => exact absurd (hxy rfl) hwanted

end

/-- A `foldlM` fails at one of its steps. -/
theorem exists_of_foldlM_error {f : β → α → Except ε β} {xs : List α} {b : β} {e : ε}
    (h : xs.foldlM f b = .error e) : ∃ b x, x ∈ xs ∧ f b x = .error e := by
  induction xs generalizing b with
  | nil => cases h
  | cons x xs ih =>
    rw [List.foldlM_cons] at h
    cases hx : f b x with
    | error e' =>
      rw [hx] at h
      exact ⟨b, x, List.mem_cons_self, hx.trans h⟩
    | ok middle =>
      rw [hx] at h
      obtain ⟨b', x', hx', he⟩ := ih h
      exact ⟨b', x', List.mem_cons_of_mem _ hx', he⟩

/-- A property that every step of a `foldlM` keeps. -/
theorem foldlM_invariant (Inv : β → Prop) {f : β → α → Except ε β} {xs : List α}
    (hstep : ∀ b, Inv b → ∀ x ∈ xs, ∀ b', f b x = .ok b' → Inv b') {b b' : β} (hb : Inv b)
    (h : xs.foldlM f b = .ok b') : Inv b' := by
  induction xs generalizing b with
  | nil =>
    cases h
    exact hb
  | cons x xs ih =>
    rw [List.foldlM_cons, bind_eq_ok] at h
    obtain ⟨middle, hmiddle, h⟩ := h
    exact ih (fun b hb x hx => hstep b hb x (List.mem_cons_of_mem _ hx))
      (hstep b hb x List.mem_cons_self middle hmiddle) h

/-- Where every step that succeeds with `f` comes to the same with `g`, a whole run does. -/
theorem foldlM_mono {f g : β → α → Except ε β} (hstep : ∀ b x b', f b x = .ok b' → g b x = .ok b') {xs : List α}
    {b b' : β} (h : xs.foldlM f b = .ok b') : xs.foldlM g b = .ok b' := by
  induction xs generalizing b with
  | nil => exact h
  | cons x xs ih =>
    rw [List.foldlM_cons, bind_eq_ok] at h ⊢
    obtain ⟨c, hc, hrest⟩ := h
    exact ⟨c, hstep b x c hc, ih hrest⟩

/-- What one step of a `foldlM` brings about and every step keeps holds at the end. -/
theorem foldlM_establish (Inv : β → Prop) {f : β → α → Except ε β} {xs : List α} {x : α} (hx : x ∈ xs)
    (hx' : ∀ b b', f b x = .ok b' → Inv b') (hstep : ∀ b, Inv b → ∀ y ∈ xs, ∀ b', f b y = .ok b' → Inv b') {b b' : β}
    (h : xs.foldlM f b = .ok b') : Inv b' := by
  induction xs generalizing b with
  | nil => cases hx
  | cons y xs ih =>
    rw [List.foldlM_cons, bind_eq_ok] at h
    obtain ⟨middle, hmiddle, h⟩ := h
    have hrest : ∀ b, Inv b → ∀ y ∈ xs, ∀ b', f b y = .ok b' → Inv b' :=
      fun b hb y hy => hstep b hb y (List.mem_cons_of_mem _ hy)
    rcases List.mem_cons.1 hx with rfl | hx
    · exact foldlM_invariant Inv hrest (hx' b middle hmiddle) h
    · exact ih hx hrest h

end

/-! ## Two computations side by side -/

section

variable {ε α β γ δ : Type} {R : β → α → Prop} {S : δ → γ → Prop}

/-- Both fail with the same error, or both succeed with related results. -/
def Agrees (R : β → α → Prop) (x : Except ε α) (y : Except ε β) : Prop :=
  match x with
  | .error e => y = .error e
  | .ok a => ∃ b, y = .ok b ∧ R b a

theorem agrees_refl (x : Except ε α) : Agrees (fun b a => x = .ok a ∧ b = a) x x := by
  cases x with
  | error e => exact rfl
  | ok a => exact ⟨a, rfl, rfl, rfl⟩

/-- Step by step: the first steps agree, and the rest agrees on related results. -/
theorem Agrees.bind {x : Except ε α} {y : Except ε β} {f : α → Except ε γ} {g : β → Except ε δ} (h : Agrees R x y)
    (hrest : ∀ a b, R b a → Agrees S (f a) (g b)) : Agrees S (x >>= f) (y >>= g) := by
  cases x with
  | error e =>
    rw [show y = .error e from h]
    exact rfl
  | ok a =>
    obtain ⟨b, rfl, hab⟩ := h
    exact hrest a b hab

end

end Lib
