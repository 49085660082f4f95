import Mathlib.Tactic.Ring
import Mathlib.Logic.Function.Iterate

/-!
Timers that back off: a first duration, a rule that gives the next one, and a limit
of time that shortens the last.
-/

namespace Backoff

variable (next : Nat → Nat) (first limit : Nat)

/-- The durations without a limit. -/
def duration (n : Nat) : Nat := next^[n] first

/-- The time the first durations take together. -/
def total : Nat → Nat
  | 0 => 0
  | n + 1 => total n + duration next first n

def durations (n : Nat) : List Nat := (List.range n).map (duration next first)

/-- The duration that follows some others within a limit. -/
def nextWithin (passed : List Nat) : Nat :=
  match passed.getLast? with
  | none => first
  | some last => min (next last) (limit - passed.sum)

/-- As long as the limit is not reached, the time with the next duration added stays
below a bound. -/
def Fits (bound : Nat) : Prop :=
  ∀ n, total next first (n + 1) < limit → total next first (n + 2) < bound

variable {next : Nat → Nat} {first limit : Nat}

theorem duration_succ (n : Nat) : duration next first (n + 1) = next (duration next first n) :=
  Function.iterate_succ_apply' next n first

theorem total_succ (n : Nat) :
    total next first (n + 1) = total next first n + duration next first n := rfl

theorem durations_succ (n : Nat) :
    durations next first (n + 1) = durations next first n ++ [duration next first n] := by
  simp [durations, List.range_succ]

@[simp] theorem length_durations (n : Nat) : (durations next first n).length = n := by
  simp [durations]

@[simp] theorem sum_durations (n : Nat) :
    (durations next first n).sum = total next first n := by
  induction n with
  | zero => rfl
  | succ n ih =>
      rw [durations_succ, List.sum_append, ih, List.sum_singleton]
      rfl

theorem nextWithin_zero : nextWithin next first limit (durations next first 0) = first := rfl

theorem nextWithin_succ (n : Nat) :
    nextWithin next first limit (durations next first (n + 1)) =
      min (duration next first (n + 1)) (limit - total next first (n + 1)) := by
  have hlast : (durations next first (n + 1)).getLast? = some (duration next first n) := by
    rw [durations_succ, List.getLast?_concat]
  rw [nextWithin, hlast, sum_durations, duration_succ]

theorem nextWithin_eq_duration {n : Nat}
    (h : total next first n + nextWithin next first limit (durations next first n) < limit) :
    nextWithin next first limit (durations next first n) = duration next first n := by
  cases n with
  | zero => exact nextWithin_zero
  | succ n =>
      rw [nextWithin_succ] at h ⊢
      omega

theorem nextWithin_of_total_lt {n : Nat} (h : total next first (n + 1) < limit) :
    nextWithin next first limit (durations next first n) = duration next first n := by
  cases n with
  | zero => exact nextWithin_zero
  | succ n =>
      rw [nextWithin_succ]
      rw [total_succ] at h
      omega

theorem total_le_total {m n : Nat} (h : m ≤ n) : total next first m ≤ total next first n := by
  induction n, h using Nat.le_induction with
  | base => exact Nat.le_refl _
  | succ n _ ih => exact Nat.le_trans ih (Nat.le_add_right _ _)

theorem first_le_total (n : Nat) : first ≤ total next first (n + 1) := by
  have hone : total next first 1 = first := Nat.zero_add first
  calc first = total next first 1 := hone.symm
    _ ≤ total next first (n + 1) := total_le_total (Nat.succ_le_succ (Nat.zero_le n))

theorem duration_pos (hfirst : 0 < first) (hnext : ∀ d, 0 < d → 0 < next d) (n : Nat) :
    0 < duration next first n := by
  induction n with
  | zero => exact hfirst
  | succ n ih =>
      rw [duration_succ]
      exact hnext _ ih

theorem le_total (hfirst : 0 < first) (hnext : ∀ d, 0 < d → 0 < next d) (n : Nat) :
    n ≤ total next first n := by
  induction n with
  | zero => exact Nat.le_refl 0
  | succ n ih =>
      have hpos := duration_pos hfirst hnext n
      rw [total_succ]
      omega

theorem total_succ_succ_le (hnext : ∀ d, next d ≤ 2 * d) (n : Nat) :
    total next first (n + 2) ≤ 3 * total next first (n + 1) := by
  have hdouble := hnext (duration next first n)
  rw [total_succ (n + 1), duration_succ, total_succ n]
  omega

theorem fits_of_three_mul_le {bound : Nat} (hnext : ∀ d, next d ≤ 2 * d)
    (hbound : 3 * limit ≤ bound) : Fits next first limit bound := by
  intro n hlt
  have htreble : total next first (n + 2) ≤ 3 * total next first (n + 1) :=
    total_succ_succ_le hnext n
  omega

theorem duration_double (first n : Nat) : duration (fun d => 2 * d) first n = 2 ^ n * first := by
  induction n with
  | zero => exact (Nat.one_mul first).symm
  | succ n ih =>
      rw [duration_succ, ih, Nat.pow_succ]
      ring

theorem total_double (first n : Nat) :
    total (fun d => 2 * d) first n + first = 2 ^ n * first := by
  induction n with
  | zero => simp [total]
  | succ n ih =>
      rw [total_succ, duration_double, Nat.pow_succ]
      calc total (fun d => 2 * d) first n + 2 ^ n * first + first
          = total (fun d => 2 * d) first n + first + 2 ^ n * first := by ring
        _ = 2 ^ n * 2 * first := by rw [ih]; ring

theorem fits_double {k bound : Nat} (hbound : 2 ^ (k + 1) * first < bound) :
    Fits (fun d => 2 * d) first (2 ^ k * first) bound := by
  intro n hlt
  have hnow := total_double first (n + 1)
  have hthen := total_double first (n + 2)
  have hpow : 2 ^ (n + 1) * first < (2 ^ k + 1) * first := by
    rw [Nat.add_mul, Nat.one_mul]
    omega
  have hle : n + 1 ≤ k := by
    have hlt := Nat.lt_of_mul_lt_mul_right hpow
    exact (Nat.pow_le_pow_iff_right (by decide)).mp (Nat.le_of_lt_succ hlt)
  have hmono : 2 ^ (n + 2) * first ≤ 2 ^ (k + 1) * first :=
    Nat.mul_le_mul_right first (Nat.pow_le_pow_right (by decide) (by omega))
  omega

end Backoff
