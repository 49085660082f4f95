import Mathlib.Data.List.Basic
import Mathlib.Data.List.Pairwise

/-!
Numbered items in strictly increasing order, and the first number from a start on that none
of them has.  An item given that number and put at its place keeps the order.
-/

namespace ImsStack.Library.FirstGap

universe u

variable {α : Type u} (number : α → Nat)

/-- How many items at the head of the list are numbered `start`, `start + 1`, and so on. -/
def gap (start : Nat) : List α → Nat
  | [] => 0
  | x :: xs => if number x = start then gap (start + 1) xs + 1 else 0

/-- The numbers are at least `start` and strictly increasing. -/
structure Ascending (start : Nat) (items : List α) : Prop where
  start_le : ∀ x ∈ items, start ≤ number x
  increasing : items.Pairwise fun x y => number x < number y

variable {number} {start : Nat} {items : List α}

theorem Ascending.nil : Ascending number start [] :=
  ⟨fun _ h => absurd h List.not_mem_nil, List.Pairwise.nil⟩

theorem Ascending.sublist {rest : List α} (h : Ascending number start items)
    (hrest : rest.Sublist items) : Ascending number start rest :=
  ⟨fun x hx => h.start_le x (hrest.subset hx), h.increasing.sublist hrest⟩

theorem Ascending.tail {x : α} {xs : List α} (h : Ascending number start (x :: xs)) :
    Ascending number (number x + 1) xs := by
  obtain ⟨hx, hxs⟩ := List.pairwise_cons.mp h.increasing
  exact ⟨fun y hy => hx y hy, hxs⟩

theorem Ascending.eq_of_number_eq (h : Ascending number start items) {x y : α}
    (hx : x ∈ items) (hy : y ∈ items) (hnumber : number x = number y) : x = y := by
  induction items with
  | nil => exact absurd hx List.not_mem_nil
  | cons z zs ih =>
    obtain ⟨hz, -⟩ := List.pairwise_cons.mp h.increasing
    rcases List.mem_cons.mp hx with hxz | hxs <;> rcases List.mem_cons.mp hy with hyz | hys
    · exact hxz.trans hyz.symm
    · exact absurd hnumber (Nat.ne_of_lt (hxz ▸ hz y hys))
    · exact absurd hnumber.symm (Nat.ne_of_lt (hyz ▸ hz x hxs))
    · exact ih (h.sublist (List.sublist_cons_self z zs)) hxs hys

theorem gap_cons_of_eq {x : α} {xs : List α} (hx : number x = start) :
    gap number start (x :: xs) = gap number (start + 1) xs + 1 := if_pos hx

theorem gap_cons_of_ne {x : α} {xs : List α} (hx : number x ≠ start) :
    gap number start (x :: xs) = 0 := if_neg hx

theorem gap_le_length : gap number start items ≤ items.length := by
  induction items generalizing start with
  | nil => exact Nat.le_refl 0
  | cons x xs ih =>
    by_cases hx : number x = start
    · rw [gap_cons_of_eq hx]
      exact Nat.succ_le_succ ih
    · rw [gap_cons_of_ne hx]
      exact Nat.zero_le _

theorem exists_of_lt_gap {number' : Nat} (hle : start ≤ number')
    (hlt : number' < start + gap number start items) : ∃ x ∈ items, number x = number' := by
  induction items generalizing start with
  | nil =>
    rw [gap] at hlt
    omega
  | cons x xs ih =>
    by_cases hx : number x = start
    · by_cases hfirst : number' = start
      · exact ⟨x, List.mem_cons_self, hx.trans hfirst.symm⟩
      · rw [gap_cons_of_eq hx] at hlt
        obtain ⟨y, hy, hnumber⟩ := @ih (start + 1) (by omega) (by omega)
        exact ⟨y, List.mem_cons_of_mem x hy, hnumber⟩
    · rw [gap_cons_of_ne hx] at hlt
      omega

theorem number_getElem_of_lt_gap {k : Nat} (hk : k < gap number start items)
    (hlt : k < items.length) : number items[k] = start + k := by
  induction items generalizing start k with
  | nil => exact absurd hlt (Nat.not_lt_zero k)
  | cons x xs ih =>
    by_cases hx : number x = start
    · rw [gap_cons_of_eq hx] at hk
      cases k with
      | zero => exact hx
      | succ k =>
        have hrest := @ih (start + 1) k (by omega) (Nat.lt_of_succ_lt_succ hlt)
        rw [List.getElem_cons_succ, hrest]
        omega
    · rw [gap_cons_of_ne hx] at hk
      exact absurd hk (Nat.not_lt_zero k)

theorem Ascending.ne_gap (h : Ascending number start items) :
    ∀ x ∈ items, number x ≠ start + gap number start items := by
  induction items generalizing start with
  | nil => exact fun x hx => absurd hx List.not_mem_nil
  | cons x xs ih =>
    intro y hy
    by_cases hx : number x = start
    · rw [gap_cons_of_eq hx]
      have htail := h.tail
      rw [hx] at htail
      rcases List.mem_cons.mp hy with rfl | hy
      · omega
      · have := ih htail y hy
        omega
    · rw [gap_cons_of_ne hx, Nat.add_zero]
      have hstart := h.start_le x List.mem_cons_self
      rcases List.mem_cons.mp hy with rfl | hy
      · exact hx
      · have := h.tail.start_le y hy
        omega

theorem Ascending.insertIdx (h : Ascending number start items) {x : α}
    (hx : number x = start + gap number start items) :
    Ascending number start (items.insertIdx (gap number start items) x) := by
  induction items generalizing start with
  | nil =>
    rw [gap, Nat.add_zero] at hx
    refine ⟨fun y hy => ?_, List.pairwise_singleton _ x⟩
    rw [List.mem_singleton.mp hy]
    exact Nat.le_of_eq hx.symm
  | cons y ys ih =>
    by_cases hy : number y = start
    · rw [gap_cons_of_eq hy] at hx ⊢
      rw [List.insertIdx_succ_cons]
      have htail := h.tail
      rw [hy] at htail
      have hrest := ih htail (by omega)
      refine ⟨?_, List.pairwise_cons.mpr ⟨fun z hz => ?_, hrest.increasing⟩⟩
      · intro z hz
        rcases List.mem_cons.mp hz with rfl | hz
        · exact Nat.le_of_eq hy.symm
        · exact Nat.le_of_succ_le (hrest.start_le z hz)
      · rw [hy]
        exact hrest.start_le z hz
    · rw [gap_cons_of_ne hy] at hx ⊢
      rw [List.insertIdx_zero]
      have hlt : ∀ z ∈ y :: ys, number x < number z := by
        intro z hz
        have hz' := h.start_le z hz
        have hne := h.ne_gap z hz
        rw [gap_cons_of_ne hy] at hne
        omega
      refine ⟨?_, List.pairwise_cons.mpr ⟨hlt, h.increasing⟩⟩
      intro z hz
      rcases List.mem_cons.mp hz with rfl | hz
      · omega
      · exact h.start_le z hz

end ImsStack.Library.FirstGap
