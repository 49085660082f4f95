import Mathlib.Data.List.Basic
import Mathlib.Logic.Function.Basic

/-!
Labels of some of the elements of a type, no two of them the same, and what changes of labels keep
that.
-/

namespace Library.DistinctLabels

universe u v

variable {ι : Type u} {ν : Type v}

/-- No two elements have the same label. -/
def Distinct (label : ι → Option ν) : Prop :=
  ∀ i j n, label i = some n → label j = some n → i = j

variable {label : ι → Option ν} {k : ι} {n : ν}

theorem Distinct.ne_of_ne (h : Distinct label) (hk : label k = some n) {j : ι} (hj : j ≠ k) :
    label j ≠ some n :=
  fun hlabel => hj (h j k n hlabel hk)

variable [DecidableEq ι]

theorem Distinct.update (h : Distinct label) (hfree : ∀ j, j ≠ k → label j ≠ some n) :
    Distinct (Function.update label k (some n)) := by
  intro i j m hi hj
  by_cases hik : i = k <;> by_cases hjk : j = k
  · rw [hik, hjk]
  · subst hik
    rw [Function.update_self] at hi
    rw [Function.update_of_ne hjk, ← hi] at hj
    exact absurd hj (hfree j hjk)
  · subst hjk
    rw [Function.update_self] at hj
    rw [Function.update_of_ne hik, ← hj] at hi
    exact absurd hi (hfree i hik)
  · rw [Function.update_of_ne hik] at hi
    rw [Function.update_of_ne hjk] at hj
    exact h i j m hi hj

end Library.DistinctLabels
