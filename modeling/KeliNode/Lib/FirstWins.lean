import Mathlib.Data.List.Basic

/-!
# Merges that the first one wins

A merge is left-biased for what one sees of its arguments (`view`) when it shows what its left argument shows, and
what the right one shows only when the left one shows nothing (`LeftBiased`).  A fold of such merges then shows what
the first of all the arguments does that shows anything (`LeftBiased.view_foldl`).  Appending the entries whose key is
new (`appendNew`) is the merge of lists that is left-biased in the first entry under any key
(`firstWith_appendNew`).
-/

namespace Lib

section

variable {α β γ : Type} {merge : α → α → α} {view : α → Option γ}

def LeftBiased (merge : α → α → α) (view : α → Option γ) : Prop :=
  ∀ left right, view (merge left right) = (view left).or (view right)

/-- **Run lemma**: the fold shows what its first argument with anything to show shows. -/
theorem LeftBiased.view_foldl (h : LeftBiased merge view) (first : α) (rest : List α) :
    view (rest.foldl merge first) = (first :: rest).findSome? view := by
  induction rest generalizing first with
  | nil => cases hview : view first <;> simp [hview]
  | cons next rest ih =>
    rw [List.foldl_cons, ih, List.findSome?_cons, List.findSome?_cons, List.findSome?_cons, h]
    cases view first <;> rfl

/-- From a start that shows nothing, only the arguments count. -/
theorem LeftBiased.view_foldl_of_none (h : LeftBiased merge view) {first : α} (hfirst : view first = none)
    (rest : List α) : view (rest.foldl merge first) = rest.findSome? view := by
  rw [h.view_foldl, List.findSome?_cons, hfirst]

end

section

variable {α β : Type} {p : α → Bool} {f : α → Option β}

theorem findSome?_filter (xs : List α) : (xs.findSome? fun x => if p x then f x else none) = (xs.filter p).findSome? f := by
  induction xs with
  | nil => rfl
  | cons x xs ih =>
    rw [List.findSome?_cons, List.filter_cons, ih]
    cases p x with
    | true => rw [if_pos rfl, if_pos rfl, List.findSome?_cons]
    | false => rfl

/-- Nothing shows before the first that `p` finds, so what that one shows is what shows. -/
theorem findSome?_of_find? {xs : List α} {x : α} {y : β} (hx : xs.find? p = some x) (hf : ∀ z, (f z).isSome = true → p z = true)
    (hy : f x = some y) : xs.findSome? f = some y := by
  induction xs with
  | nil => cases hx
  | cons z xs ih =>
    rw [List.findSome?_cons]
    cases hz : p z with
    | true =>
      rw [List.find?_cons_of_pos hz] at hx
      cases hx
      rw [hy]
    | false =>
      rw [List.find?_cons_of_neg (by rw [hz]; exact Bool.false_ne_true)] at hx
      have hnone : f z = none := by
        rw [← Option.not_isSome_iff_eq_none]
        exact fun hsome => Bool.false_ne_true (hz.symm.trans (hf z hsome))
      rw [hnone]
      exact ih hx

end

section

variable {α κ : Type} [DecidableEq κ] (key : α → κ) {xs ys : List α} {x y : α} {k : κ}

/-- The first entry under a key. -/
def firstWith (xs : List α) (k : κ) : Option α := xs.find? (key · = k)

/-- The entries of `ys` behind `xs`, without those that are the same as one before them. -/
def appendNew (same : α → α → Bool) (xs ys : List α) : List α :=
  ys.foldl (fun kept y => if kept.any (same · y) then kept else kept ++ [y]) xs

variable {key}

theorem firstWith_append (xs ys : List α) (k : κ) :
    firstWith key (xs ++ ys) k = (firstWith key xs k).or (firstWith key ys k) :=
  List.find?_append

theorem firstWith_flatMap {β : Type} (f : β → List α) (sources : List β) (k : κ) :
    firstWith key (sources.flatMap f) k = sources.findSome? fun source => firstWith key (f source) k :=
  List.find?_flatMap

theorem firstWith_eq_some (h : firstWith key xs k = some x) : x ∈ xs ∧ key x = k := by
  rw [firstWith] at h
  exact ⟨List.mem_of_find?_eq_some h, by simpa using List.find?_some h⟩

theorem exists_firstWith (h : x ∈ xs) : ∃ y, firstWith key xs (key x) = some y := by
  rw [← Option.isSome_iff_exists, firstWith, List.find?_isSome]
  exact ⟨x, h, decide_eq_true rfl⟩

theorem firstWith_eq_none (h : ∀ x ∈ xs, key x ≠ k) : firstWith key xs k = none := by
  rw [firstWith, List.find?_eq_none]
  exact fun x hx heq => h x hx (of_decide_eq_true heq)

/-- **Step lemma**: one entry more. -/
theorem firstWith_appendOne {same : α → α → Bool} (hsame : ∀ x y, same x y = decide (key x = key y)) (xs : List α)
    (y : α) (k : κ) :
    firstWith key (if xs.any (same · y) then xs else xs ++ [y]) k = (firstWith key xs k).or (firstWith key [y] k) := by
  by_cases hold : xs.any (same · y) = true
  · rw [if_pos hold]
    by_cases hk : key y = k
    · obtain ⟨x, hx, hxy⟩ := List.any_eq_true.1 hold
      rw [hsame, decide_eq_true_eq, hk] at hxy
      obtain ⟨first, hfirst⟩ := @exists_firstWith _ _ _ key _ _ hx
      rw [hxy] at hfirst
      rw [hfirst, Option.some_or]
    · have hnone : firstWith key [y] k = none := firstWith_eq_none (by simpa using hk)
      rw [hnone, Option.or_none]
  · rw [if_neg hold, firstWith_append]

/-- **Run lemma**: the first entry under a key is the first one of both lists. -/
theorem firstWith_appendNew {same : α → α → Bool} (hsame : ∀ x y, same x y = decide (key x = key y)) (xs ys : List α)
    (k : κ) : firstWith key (appendNew same xs ys) k = firstWith key (xs ++ ys) k := by
  induction ys generalizing xs with
  | nil => rw [appendNew, List.foldl_nil, List.append_nil]
  | cons y ys ih =>
    rw [appendNew, List.foldl_cons, ← appendNew, ih, firstWith_append, firstWith_appendOne hsame, List.append_cons,
      firstWith_append, firstWith_append]

/-- Of every contributed entry, the first one with its key is the first one merged with that key. -/
def Kept (key : α → κ) (contributed merged : List α) : Prop :=
  ∀ x ∈ contributed, ∃ first, firstWith key contributed (key x) = some first ∧ firstWith key merged (key x) = some first

/-- It is enough to find what is contributed. -/
theorem kept_of_firstWith {contributed merged : List α}
    (h : ∀ k y, firstWith key contributed k = some y → firstWith key merged k = some y) : Kept key contributed merged := by
  intro x hx
  obtain ⟨first, hfirst⟩ := @exists_firstWith _ _ _ key _ _ hx
  exact ⟨first, hfirst, h _ _ hfirst⟩

/-- A list keeps what is contributed behind it exactly when it has all the keys already. -/
theorem kept_append_self : Kept key (xs ++ ys) xs ↔ ∀ y ∈ ys, ∃ x ∈ xs, key x = key y := by
  constructor
  · intro h y hy
    obtain ⟨first, -, hfirst⟩ := h y (List.mem_append_right _ hy)
    exact ⟨first, firstWith_eq_some hfirst⟩
  · intro h y hy
    have hold : ∃ x ∈ xs, key x = key y := by
      rcases List.mem_append.1 hy with hmem | hmem
      · exact ⟨y, hmem, rfl⟩
      · exact h y hmem
    obtain ⟨x, hx, hkey⟩ := hold
    obtain ⟨first, hfirst⟩ := @exists_firstWith _ _ _ key _ _ hx
    rw [hkey] at hfirst
    exact ⟨first, by rw [firstWith_append, hfirst, Option.some_or], hfirst⟩

end

end Lib
