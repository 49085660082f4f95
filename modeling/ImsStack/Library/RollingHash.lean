import Mathlib.Algebra.Ring.Defs
import Mathlib.Data.List.Induction
import Mathlib.Data.Nat.Init
import Mathlib.Tactic.Ring

/-!
A hash of a window that is moved by one element, and the first or last position where something
holds.
-/

namespace ImsStack.Library.RollingHash

section hash

variable {R α : Type} [CommRing R] (base : R) (value : α → R)

/-- The polynomial of the elements; the last one has the power zero. -/
def polyHash (window : List α) : R := window.foldl (fun h a => h * base + value a) 0

@[simp]
theorem polyHash_nil : polyHash base value [] = 0 := rfl

@[simp]
theorem polyHash_concat (window : List α) (a : α) :
    polyHash base value (window ++ [a]) = polyHash base value window * base + value a := by
  unfold polyHash
  rw [List.foldl_append]
  rfl

theorem polyHash_cons (a : α) (window : List α) :
    polyHash base value (a :: window) =
      value a * base ^ window.length + polyHash base value window := by
  induction window using List.reverseRecOn with
  | nil => simp [polyHash]
  | append_singleton window b ih =>
    rw [← List.cons_append, polyHash_concat, polyHash_concat, ih, List.length_append,
      List.length_singleton, pow_succ]
    ring

end hash

section search

variable {holds : Nat → Prop} {n : Nat} {r : Int}

/-- `r` is the first position from `n` on, or -1 where there is none. -/
def IsFirstFrom (holds : Nat → Prop) (n : Nat) (r : Int) : Prop :=
  (r = -1 ∧ ∀ p, n ≤ p → ¬holds p) ∨
    ∃ p : Nat, r = p ∧ n ≤ p ∧ holds p ∧ ∀ q, n ≤ q → q < p → ¬holds q

/-- `r` is the last position up to `n`, or -1 where there is none. -/
def IsLastUpTo (holds : Nat → Prop) (n : Nat) (r : Int) : Prop :=
  (r = -1 ∧ ∀ p, p ≤ n → ¬holds p) ∨
    ∃ p : Nat, r = p ∧ p ≤ n ∧ holds p ∧ ∀ q, p < q → q ≤ n → ¬holds q

theorem isFirstFrom_none (h : ∀ p, n ≤ p → ¬holds p) : IsFirstFrom holds n (-1) := .inl ⟨rfl, h⟩

theorem isFirstFrom_self (h : holds n) : IsFirstFrom holds n n :=
  .inr ⟨n, rfl, Nat.le_refl n, h, fun _ hle hlt => absurd hle (Nat.not_le_of_lt hlt)⟩

theorem IsFirstFrom.of_succ (h : IsFirstFrom holds (n + 1) r) (hn : ¬holds n) :
    IsFirstFrom holds n r := by
  have hbefore : ∀ q, n ≤ q → n + 1 ≤ q ∨ q = n := by
    intro q hq
    omega
  rcases h with ⟨hr, hnone⟩ | ⟨p, hr, hp, hholds, hfirst⟩
  · left
    refine ⟨hr, fun q hq => ?_⟩
    rcases hbefore q hq with hq | rfl
    · exact hnone q hq
    · exact hn
  · right
    refine ⟨p, hr, by omega, hholds, fun q hq hlt => ?_⟩
    rcases hbefore q hq with hq | rfl
    · exact hfirst q hq hlt
    · exact hn

theorem isLastUpTo_zero (h : ¬holds 0) : IsLastUpTo holds 0 (-1) := by
  refine .inl ⟨rfl, fun p hp => ?_⟩
  rw [Nat.le_zero.mp hp]
  exact h

theorem isLastUpTo_self (h : holds n) : IsLastUpTo holds n n :=
  .inr ⟨n, rfl, Nat.le_refl n, h, fun _ hlt hle => absurd hle (Nat.not_le_of_lt hlt)⟩

theorem IsLastUpTo.succ (h : IsLastUpTo holds n r) (hn : ¬holds (n + 1)) :
    IsLastUpTo holds (n + 1) r := by
  have hafter : ∀ q, q ≤ n + 1 → q ≤ n ∨ q = n + 1 := by
    intro q hq
    omega
  rcases h with ⟨hr, hnone⟩ | ⟨p, hr, hp, hholds, hlast⟩
  · left
    refine ⟨hr, fun q hq => ?_⟩
    rcases hafter q hq with hq | rfl
    · exact hnone q hq
    · exact hn
  · right
    refine ⟨p, hr, by omega, hholds, fun q hlt hq => ?_⟩
    rcases hafter q hq with hq | rfl
    · exact hlast q hlt hq
    · exact hn

theorem IsLastUpTo.extend {m : Nat} (h : IsLastUpTo holds n r) (hle : n ≤ m)
    (hnone : ∀ p, n < p → p ≤ m → ¬holds p) : IsLastUpTo holds m r := by
  induction m, hle using Nat.le_induction with
  | base => exact h
  | succ m hle ih =>
    have hm := ih fun p hlt hp => hnone p hlt (Nat.le_succ_of_le hp)
    exact hm.succ (hnone (m + 1) (Nat.lt_succ_of_le hle) (Nat.le_refl _))

end search

end ImsStack.Library.RollingHash
