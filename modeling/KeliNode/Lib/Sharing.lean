import Std.Data.ExtTreeMap.Lemmas
import KeliNode.Lib.InTurn

/-!
# Sharing equal values

A `Shared` value stands at an allocation.  `shareAll` goes through values and gives each one that is wanted the
allocation of the first equal one, which it looks for among those of the same fingerprint; `internAll` makes
an allocation for a text where it has none yet.  No value changes (`value_shareAll`), and afterwards two values stand
at one allocation just when they are equal (`allocation_shareAll`), whatever the fingerprint is: it only says where to
look.
-/

namespace Lib

open Std

structure Shared (α : Type) where
  allocation : Nat
  value : α
  deriving DecidableEq

/-- One allocation holds one value. -/
def Coherent {α : Type} (items : List (Shared α)) : Prop :=
  ∀ x ∈ items, ∀ y ∈ items, x.allocation = y.allocation → x.value = y.value

section

variable {α κ : Type} [DecidableEq α] {cmp : κ → κ → Ordering} [TransCmp cmp] [LawfulEqCmp cmp]
  (wanted : α → Bool) (fingerprint : α → κ)

/-- One pass of the loop: an equal item from the bucket, or the item itself, which the bucket then has. -/
def shareOne (pool : ExtTreeMap κ (List (Shared α)) cmp) (item : Shared α) :
    Shared α × ExtTreeMap κ (List (Shared α)) cmp :=
  let bucket := pool.getD (fingerprint item.value) []
  match bucket.find? fun candidate => candidate.value = item.value with
  | some existing => (existing, pool)
  | none => (item, pool.insert (fingerprint item.value) (bucket ++ [item]))

def shareAll : ExtTreeMap κ (List (Shared α)) cmp → List (Shared α) → List (Shared α)
  | _, [] => []
  | pool, item :: items =>
    if wanted item.value then
      (shareOne fingerprint pool item).1 :: shareAll (shareOne fingerprint pool item).2 items
    else item :: shareAll pool items

/-! ## What the pool knows -/

def firstEqual (items : List (Shared α)) (value : α) : Option (Shared α) := items.find? fun item => item.value = value

/-- The pool finds the first of the items seen that is equal to a wanted value. -/
def Pooled (seen : List (Shared α)) (pool : ExtTreeMap κ (List (Shared α)) cmp) : Prop :=
  ∀ value, wanted value = true → firstEqual (pool.getD (fingerprint value) []) value = firstEqual seen value

/-- The item the loop comes to. -/
def shareWith (earlier : List (Shared α)) (item : Shared α) : Shared α :=
  if wanted item.value then (firstEqual earlier item.value).getD item else item

variable {wanted fingerprint} {seen : List (Shared α)} {pool : ExtTreeMap κ (List (Shared α)) cmp} {item : Shared α}

theorem firstEqual_append (xs ys : List (Shared α)) (value : α) :
    firstEqual (xs ++ ys) value = (firstEqual xs value).or (firstEqual ys value) :=
  List.find?_append

theorem firstEqual_singleton_of_ne {value : α} (h : item.value ≠ value) : firstEqual [item] value = none :=
  List.find?_cons_of_neg (by simpa using h)

theorem firstEqual_eq_some {items : List (Shared α)} {value : α} {found : Shared α}
    (h : firstEqual items value = some found) : found ∈ items ∧ found.value = value :=
  ⟨List.mem_of_find?_eq_some h, by simpa using List.find?_some h⟩

theorem exists_firstEqual {items : List (Shared α)} (h : item ∈ items) :
    ∃ found, firstEqual items item.value = some found := by
  rw [← Option.isSome_iff_exists, firstEqual, List.find?_isSome]
  exact ⟨item, h, by simp⟩

omit [LawfulEqCmp cmp] in
/-- **Step lemma** for an item that is left alone. -/
theorem Pooled.skip (h : Pooled wanted fingerprint seen pool) (hskip : wanted item.value = false) :
    Pooled wanted fingerprint (seen ++ [item]) pool := by
  intro value hvalue
  have hne : item.value ≠ value := by
    rintro rfl
    rw [hskip] at hvalue
    cases hvalue
  rw [firstEqual_append, firstEqual_singleton_of_ne hne, Option.or_none, h value hvalue]

/-- **Step lemma** for a wanted item. -/
theorem Pooled.share (h : Pooled wanted fingerprint seen pool) (hwanted : wanted item.value = true) :
    (shareOne fingerprint pool item).1 = shareWith wanted seen item ∧
      Pooled wanted fingerprint (seen ++ [item]) (shareOne fingerprint pool item).2 := by
  have hfound := h item.value hwanted
  rw [shareWith, if_pos hwanted]
  cases hfirst : firstEqual seen item.value with
  | some existing =>
    rw [hfirst] at hfound
    have hone : shareOne fingerprint pool item = (existing, pool) := by
      simp only [shareOne]
      rw [show (pool.getD (fingerprint item.value) []).find? (fun candidate => candidate.value = item.value) = _ from hfound]
    rw [hone]
    refine ⟨rfl, fun value hvalue => ?_⟩
    rw [firstEqual_append]
    by_cases heq : item.value = value
    · rw [← heq, hfirst, Option.some_or, hfound]
    · rw [firstEqual_singleton_of_ne heq, Option.or_none, h value hvalue]
  | none =>
    rw [hfirst] at hfound
    have hone : shareOne fingerprint pool item = (item,
        pool.insert (fingerprint item.value) (pool.getD (fingerprint item.value) [] ++ [item])) := by
      simp only [shareOne]
      rw [show (pool.getD (fingerprint item.value) []).find? (fun candidate => candidate.value = item.value) = _ from hfound]
    rw [hone]
    refine ⟨rfl, fun value hvalue => ?_⟩
    rw [firstEqual_append, ← h value hvalue]
    simp only [ExtTreeMap.getD_insert]
    split
    · rename_i hsame
      rw [LawfulEqCmp.eq_of_compare hsame, firstEqual_append]
    · rename_i hother
      have hne : item.value ≠ value := by
        rintro rfl
        exact hother ReflCmp.compare_self
      rw [firstEqual_singleton_of_ne hne, Option.or_none]

/-- **Run lemma**: the loop comes to the first equal item each time. -/
theorem shareAll_eq (h : Pooled wanted fingerprint seen pool) (items : List (Shared α)) :
    shareAll wanted fingerprint pool items = inTurn (shareWith wanted) seen items := by
  induction items generalizing seen pool with
  | nil => rfl
  | cons item items ih =>
    rw [shareAll, inTurn_cons]
    by_cases hwanted : wanted item.value = true
    · obtain ⟨hitem, hnext⟩ := h.share hwanted
      rw [if_pos hwanted, hitem, ih hnext]
    · rw [if_neg hwanted, ih (h.skip (Bool.not_eq_true _ ▸ hwanted)), shareWith, if_neg hwanted]

/-! ## What the loop comes to -/

theorem shareAll_empty (items : List (Shared α)) :
    shareAll wanted fingerprint (∅ : ExtTreeMap κ (List (Shared α)) cmp) items =
      items.map (shareWith wanted items) := by
  have hstart : Pooled wanted fingerprint [] (∅ : ExtTreeMap κ (List (Shared α)) cmp) := fun value _ => by simp
  rw [shareAll_eq hstart]
  refine List.ext_getElem? fun i => ?_
  rw [getElem?_inTurn, List.getElem?_map]
  cases hitem : items[i]? with
  | none => rfl
  | some item =>
    -- the first equal item of them all is no later than the item itself
    obtain ⟨hi, hget⟩ := List.getElem?_eq_some_iff.1 hitem
    have hsplit : items = items.take i ++ item :: items.drop (i + 1) := by
      rw [← hget, List.getElem_cons_drop, List.take_append_drop]
    have hall : firstEqual items item.value = (firstEqual (items.take i) item.value).or (some item) := by
      have hhead : firstEqual (item :: items.drop (i + 1)) item.value = some item := List.find?_cons_of_pos (by simp)
      rw [← hhead, ← firstEqual_append, ← hsplit]
    simp only [Option.map_some, shareWith, hall]
    cases firstEqual (items.take i) item.value <;> rfl

variable {items : List (Shared α)} {x y : Shared α}

theorem value_shareWith (item : Shared α) : (shareWith wanted items item).value = item.value := by
  rw [shareWith]
  split
  · cases hfirst : firstEqual items item.value with
    | none => rfl
    | some found => exact (firstEqual_eq_some hfirst).2
  · rfl

theorem shareWith_mem (h : item ∈ items) : shareWith wanted items item ∈ items := by
  rw [shareWith]
  split
  · obtain ⟨found, hfound⟩ := exists_firstEqual h
    rw [hfound]
    exact (firstEqual_eq_some hfound).1
  · exact h

/-- **No value changes.** -/
theorem value_shareAll (items : List (Shared α)) :
    (shareAll wanted fingerprint (∅ : ExtTreeMap κ (List (Shared α)) cmp) items).map (·.value) = items.map (·.value) := by
  rw [shareAll_empty, List.map_map]
  exact List.map_congr_left fun item _ => value_shareWith item

/-- **One allocation for each value.** -/
theorem allocation_shareWith (hitems : Coherent items) (hx : x ∈ items) (hy : y ∈ items)
    (hwanted : wanted x.value = true) :
    (shareWith wanted items x).allocation = (shareWith wanted items y).allocation ↔ x.value = y.value := by
  constructor
  · intro heq
    have hvalue := hitems _ (shareWith_mem hx) _ (shareWith_mem hy) heq
    rwa [value_shareWith, value_shareWith] at hvalue
  · intro heq
    rw [shareWith, shareWith, if_pos hwanted, ← heq, if_pos hwanted]
    obtain ⟨found, hfound⟩ := exists_firstEqual hx
    rw [hfound, Option.getD_some, Option.getD_some]

/-- **Sharing**: afterwards two wanted values stand at one allocation just when they are equal. -/
theorem allocation_shareAll (hitems : Coherent items)
    (hx : x ∈ shareAll wanted fingerprint (∅ : ExtTreeMap κ (List (Shared α)) cmp) items)
    (hy : y ∈ shareAll wanted fingerprint (∅ : ExtTreeMap κ (List (Shared α)) cmp) items)
    (hwanted : wanted x.value = true) : x.allocation = y.allocation ↔ x.value = y.value := by
  rw [shareAll_empty] at hx hy
  obtain ⟨x', hx', rfl⟩ := List.mem_map.1 hx
  obtain ⟨y', hy', rfl⟩ := List.mem_map.1 hy
  rw [value_shareWith] at hwanted
  rw [allocation_shareWith hitems hx' hy' hwanted, value_shareWith, value_shareWith]

end

/-! ## Interning -/

section

variable {α : Type} [DecidableEq α] {cmp : α → α → Ordering} [TransCmp cmp] [LawfulEqCmp cmp]

/-- The values that have an allocation, and the next allocation to be made. -/
structure InternPool (α : Type) (cmp : α → α → Ordering) where
  shared : ExtTreeMap α (Shared α) cmp := ∅
  next : Nat := 0

def InternPool.intern (pool : InternPool α cmp) (value : α) : Shared α × InternPool α cmp :=
  match pool.shared[value]? with
  | some existing => (existing, pool)
  | none =>
    ({ allocation := pool.next, value }, {
      shared := pool.shared.insert value { allocation := pool.next, value }
      next := pool.next + 1 })

def internAll : InternPool α cmp → List α → List (Shared α)
  | _, [] => []
  | pool, value :: values => (pool.intern value).1 :: internAll (pool.intern value).2 values

/-- A value of the pool stands under itself, at an allocation of its own that was made. -/
structure InternPool.Ok (pool : InternPool α cmp) : Prop where
  value : ∀ (value : α) (shared : Shared α), pool.shared[value]? = some shared → shared.value = value ∧ shared.allocation < pool.next
  apart : ∀ (value value' : α) (shared shared' : Shared α), pool.shared[value]? = some shared → pool.shared[value']? = some shared' →
    shared.allocation = shared'.allocation → value = value'

variable {pool : InternPool α cmp}

/-- **Step lemma**: the value is interned, and what was interned stays. -/
theorem InternPool.Ok.intern (h : pool.Ok) (value : α) :
    (pool.intern value).2.Ok ∧ (pool.intern value).2.shared[value]? = some (pool.intern value).1 ∧
      ∀ (other : α) (shared : Shared α), pool.shared[other]? = some shared → (pool.intern value).2.shared[other]? = some shared := by
  rw [InternPool.intern]
  cases hold : pool.shared[value]? with
  | some existing => exact ⟨h, hold, fun _ _ hshared => hshared⟩
  | none =>
    have hget : ∀ other, (pool.shared.insert value { allocation := pool.next, value })[other]? =
        if value = other then some { allocation := pool.next, value } else pool.shared[other]? := by
      intro other
      rw [ExtTreeMap.getElem?_insert]
      simp only [LawfulEqCmp.compare_eq_iff_eq]
    refine ⟨⟨fun other shared hshared => ?_, fun other other' shared shared' hshared hshared' heq => ?_⟩, ?_, ?_⟩
    · simp only [hget] at hshared
      split at hshared
      · rename_i heq
        cases hshared
        exact ⟨heq, Nat.lt_succ_self _⟩
      · have hok := h.value other shared hshared
        exact ⟨hok.1, Nat.lt_succ_of_lt hok.2⟩
    · simp only [hget] at hshared hshared'
      split at hshared <;> split at hshared'
      · rename_i hleft hright
        exact hleft.symm.trans hright
      · cases hshared
        exact absurd heq (Nat.ne_of_gt (h.value _ _ hshared').2)
      · cases hshared'
        exact absurd heq (Nat.ne_of_lt (h.value _ _ hshared).2)
      · exact h.apart _ _ _ _ hshared hshared' heq
    · simp only [hget, if_true]
    · intro other shared hshared
      simp only [hget]
      rw [if_neg]
      · exact hshared
      · rintro rfl
        rw [hold] at hshared
        cases hshared

/-- **Run lemma**: the interned values are the values, and a pool there is in the end has them all. -/
theorem InternPool.Ok.internAll (h : pool.Ok) (values : List α) :
    (Lib.internAll pool values).map (·.value) = values ∧ ∃ final : InternPool α cmp, final.Ok ∧
      (∀ (other : α) (shared : Shared α), pool.shared[other]? = some shared → final.shared[other]? = some shared) ∧
      ∀ shared ∈ Lib.internAll pool values, final.shared[shared.value]? = some shared := by
  induction values generalizing pool with
  | nil => exact ⟨rfl, pool, h, fun _ _ hshared => hshared, fun shared hshared => by cases hshared⟩
  | cons value values ih =>
    obtain ⟨hnext, hvalue, hkeeps⟩ := h.intern value
    obtain ⟨hvalues, final, hfinal, hkeeps', hall⟩ := ih hnext
    have heq := (hnext.value value _ hvalue).1
    refine ⟨?_, final, hfinal, fun other shared hshared => hkeeps' _ _ (hkeeps _ _ hshared), fun shared hshared => ?_⟩
    · rw [Lib.internAll, List.map_cons, hvalues, heq]
    · rw [Lib.internAll, List.mem_cons] at hshared
      rcases hshared with rfl | hshared
      · rw [heq]
        exact hkeeps' _ _ hvalue
      · exact hall shared hshared

omit [DecidableEq α] [LawfulEqCmp cmp] in
theorem ok_emptyPool : ({} : InternPool α cmp).Ok := by
  constructor
  · intro value shared hshared
    simp at hshared
  · intro value value' shared shared' hshared
    simp at hshared

theorem value_internAll (values : List α) : (internAll ({} : InternPool α cmp) values).map (·.value) = values := by
  have hstart : ({} : InternPool α cmp).Ok := ok_emptyPool
  exact (hstart.internAll values).1

/-- **Interning**: two interned values stand at one allocation just when they are equal. -/
theorem allocation_internAll {values : List α} {x y : Shared α} (hx : x ∈ internAll ({} : InternPool α cmp) values)
    (hy : y ∈ internAll ({} : InternPool α cmp) values) : x.allocation = y.allocation ↔ x.value = y.value := by
  have hstart : ({} : InternPool α cmp).Ok := ok_emptyPool
  obtain ⟨-, final, hfinal, -, hall⟩ := hstart.internAll values
  constructor
  · exact hfinal.apart _ _ _ _ (hall x hx) (hall y hy)
  · intro heq
    have hsame := hall x hx
    rw [heq, hall y hy] at hsame
    cases hsame
    rfl

end

end Lib
