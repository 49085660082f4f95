import Mathlib.Data.List.Basic

/-!
Hashing in blocks of `n`: what a state that takes the blocks of a message one after another
comes to, whatever pieces the message arrives in, and the filling that ends a message with a
block.
-/

namespace BlockHash

universe u v

variable {σ : Type u} {α : Type v} {n : Nat} {step : σ → List α → σ}

/-- The state after `k` blocks, and what is left of the message. -/
def takeBlocks (n : Nat) (step : σ → List α → σ) : Nat → σ → List α → σ × List α
  | 0, s, message => (s, message)
  | k + 1, s, message => takeBlocks n step k (step s (message.take n)) (message.drop n)

/-- The state after all blocks of a message, and the rest, which is no whole block. -/
def absorb (n : Nat) (step : σ → List α → σ) (s : σ) (message : List α) : σ × List α :=
  takeBlocks n step (message.length / n) s message

theorem takeBlocks_append {k : Nat} {s : σ} {message : List α} (hk : k * n ≤ message.length)
    (more : List α) :
    takeBlocks n step k s (message ++ more) =
      ((takeBlocks n step k s message).1, (takeBlocks n step k s message).2 ++ more) := by
  induction k generalizing s message with
  | zero => rfl
  | succ k ih =>
      rw [Nat.succ_mul] at hk
      have hn : n ≤ message.length := Nat.le_trans (Nat.le_add_left n _) hk
      have hrest : k * n ≤ (message.drop n).length := by
        rw [List.length_drop]
        exact Nat.le_sub_of_add_le hk
      simp only [takeBlocks, List.take_append_of_le_length hn, List.drop_append_of_le_length hn]
      exact ih hrest

theorem takeBlocks_add (j k : Nat) (s : σ) (message : List α) :
    takeBlocks n step (j + k) s message =
      takeBlocks n step k (takeBlocks n step j s message).1 (takeBlocks n step j s message).2 := by
  induction j generalizing s message with
  | zero => rw [Nat.zero_add]; rfl
  | succ j ih =>
      rw [Nat.succ_add]
      exact ih (step s (message.take n)) (message.drop n)

theorem takeBlocks_rest (k : Nat) (s : σ) (message : List α) :
    (takeBlocks n step k s message).2 = message.drop (k * n) := by
  induction k generalizing s message with
  | zero => rw [Nat.zero_mul]; rfl
  | succ k ih =>
      have hrest := ih (step s (message.take n)) (message.drop n)
      rw [List.drop_drop, ← Nat.add_comm (k * n), ← Nat.succ_mul] at hrest
      exact hrest

theorem length_absorb_rest (s : σ) (message : List α) :
    (absorb n step s message).2.length = message.length % n := by
  have hdiv := Nat.div_add_mod message.length n
  rw [Nat.mul_comm] at hdiv
  rw [absorb, takeBlocks_rest, List.length_drop]
  exact Nat.sub_eq_of_eq_add' hdiv.symm

theorem absorb_of_lt {s : σ} {message : List α} (h : message.length < n) :
    absorb n step s message = (s, message) := by
  rw [absorb, Nat.div_eq_of_lt h]
  rfl

/-- A message may be taken in pieces: what is left of the first is put in front of the next. -/
theorem absorb_append (s : σ) (first second : List α) :
    absorb n step s (first ++ second) =
      absorb n step (absorb n step s first).1 ((absorb n step s first).2 ++ second) := by
  have hlength : first.length = n * (first.length / n) + first.length % n :=
    (Nat.div_add_mod _ _).symm
  have hcount : (first ++ second).length / n =
      first.length / n + ((absorb n step s first).2 ++ second).length / n := by
    rw [List.length_append, List.length_append, length_absorb_rest]
    cases Nat.eq_zero_or_pos n with
    | inl hn => subst hn; simp only [Nat.div_zero, Nat.add_zero]
    | inr hn =>
        conv => lhs; rw [hlength, Nat.add_assoc]
        exact Nat.mul_add_div hn _ _
  have hfirst : first.length / n * n ≤ first.length := Nat.div_mul_le_self _ _
  calc absorb n step s (first ++ second)
      = takeBlocks n step ((first ++ second).length / n) s (first ++ second) := rfl
    _ = absorb n step (absorb n step s first).1 ((absorb n step s first).2 ++ second) := by
        rw [hcount, takeBlocks_add, takeBlocks_append hfirst]
        rfl

theorem absorb_block {s : σ} {block : List α} (hn : 0 < n) (hblock : block.length = n)
    (more : List α) : absorb n step s (block ++ more) = absorb n step (step s block) more := by
  have hone : absorb n step s block = (step s block, []) := by
    unfold absorb
    rw [hblock, Nat.div_self hn]
    simp only [takeBlocks, ← hblock, List.take_length, List.drop_length]
  rw [absorb_append, hone, List.nil_append]

/-- How many fillers go between a mark and `tail` more, for a block to end there. -/
def fillers (n tail length : Nat) : Nat := (n - (length + 1 + tail) % n) % n

theorem fillers_lt (hn : 0 < n) (tail length : Nat) : fillers n tail length < n := Nat.mod_lt _ hn

theorem dvd_filled (hn : 0 < n) (tail length : Nat) :
    n ∣ length + 1 + tail + fillers n tail length := by
  have hlt := Nat.mod_lt (length + 1 + tail) hn
  apply Nat.dvd_of_mod_eq_zero
  rw [fillers, Nat.add_mod_mod, ← Nat.mod_add_mod, Nat.add_sub_cancel' (Nat.le_of_lt hlt),
    Nat.mod_self]

/-- A message behind which stand a mark, fillers and a tail, so that it ends with a block. -/
def padded (n : Nat) (mark filler : α) (message tail : List α) : List α :=
  message ++ mark :: List.replicate (fillers n tail.length message.length) filler ++ tail

theorem length_padded (hn : 0 < n) (mark filler : α) (message tail : List α) :
    n ∣ (padded n mark filler message tail).length := by
  have hfilled := dvd_filled hn tail.length message.length
  have hlength : (padded n mark filler message tail).length =
      message.length + 1 + tail.length + fillers n tail.length message.length := by
    simp only [padded, List.length_append, List.length_cons, List.length_replicate]
    omega
  rw [hlength]
  exact hfilled

end BlockHash
