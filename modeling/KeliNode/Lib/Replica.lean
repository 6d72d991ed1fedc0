import Mathlib.Order.Basic
import Mathlib.Data.Int.Order.Basic

/-!
# A replica that catches up with a source

A source holds a value under each of its keys, version by version.  A replica asks it for what changed since the
version it acknowledged last, and may by then hold any version from that one on (`Behind`): it also takes whole
lists, which do not say their version.  If the source names every key that changed, following it leads to the newest
version all the same (`Behind.catch_up`).
-/

namespace Lib

/-- What a source holds under its keys at each of its versions. -/
abbrev History (κ ν : Type) := Int → κ → Option ν

section

variable {κ ν : Type} {history : History κ ν} {since now later : Int} {content next : κ → Option ν}

/-- The value under the key was another one at some version from `since` on. -/
def ChangedSince (history : History κ ν) (since now : Int) (key : κ) : Prop :=
  ∃ version, since ≤ version ∧ version ≤ now ∧ history version key ≠ history now key

/-- The content is that of a version from the acknowledged one to the newest. -/
def Behind (history : History κ ν) (acknowledged now : Int) (content : κ → Option ν) : Prop :=
  ∃ version, acknowledged ≤ version ∧ version ≤ now ∧ content = history version

theorem Behind.le (h : Behind history since now content) : since ≤ now := by
  obtain ⟨version, hsince, hnow, -⟩ := h
  exact hsince.trans hnow

theorem behind_current (h : since ≤ now) : Behind history since now (history now) := ⟨now, h, le_rfl, rfl⟩

theorem Behind.mono (h : Behind history since now content) (hlater : now ≤ later) :
    Behind history since later content := by
  obtain ⟨version, hsince, hnow, hcontent⟩ := h
  exact ⟨version, hsince, hnow.trans hlater, hcontent⟩

/-- Nothing can have happened since the newest version. -/
theorem Behind.eq_of_acknowledged (h : Behind history now now content) : content = history now := by
  obtain ⟨version, hsince, hnow, rfl⟩ := h
  rw [le_antisymm hnow hsince]

theorem Behind.eq_of_unchanged (h : Behind history since now content) {key : κ}
    (hkey : ¬ChangedSince history since now key) : content key = history now key := by
  obtain ⟨version, hsince, hnow, rfl⟩ := h
  by_contra hne
  exact hkey ⟨version, hsince, hnow, hne⟩

/-- **Catching up**: what is newest where the source speaks, and untouched where nothing changed, is the newest. -/
theorem Behind.catch_up (h : Behind history since now content)
    (hnext : ∀ key, next key = history now key ∨ (next key = content key ∧ ¬ChangedSince history since now key)) :
    next = history now := by
  funext key
  rcases hnext key with hkey | ⟨hkey, hunchanged⟩
  · exact hkey
  · exact hkey.trans (h.eq_of_unchanged hunchanged)

end

end Lib
