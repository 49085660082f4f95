import Mathlib.Data.List.Count
import Mathlib.Logic.Function.Basic

/-!
Counts kept by a store: one operation counts a key once more, another takes one back, and each
tells whether a key has come into sight or gone out of it.  Lists of operations add up.
-/

namespace Tally

universe u v w

variable {σ : Type u} {ι : Type v} {κ : Type w} [DecidableEq κ]
variable {inv : σ → Prop} {count : σ → κ → Nat} {key : ι → κ} {step : σ → ι → σ × Bool}

/-- All operations of a list, and whether one of them has told a change. -/
def runAll (step : σ → ι → σ × Bool) (s : σ) (l : List ι) : σ × Bool :=
  l.foldl (fun result i => ((step result.1 i).1, result.2 || (step result.1 i).2)) (s, false)

theorem foldl_told (b : Bool) (s : σ) (l : List ι) :
    l.foldl (fun result i => ((step result.1 i).1, result.2 || (step result.1 i).2)) (s, b) =
      ((runAll step s l).1, b || (runAll step s l).2) := by
  unfold runAll
  induction l generalizing s b with
  | nil =>
      rw [List.foldl_nil, List.foldl_nil, Bool.or_false]
  | cons i rest ih =>
      rw [List.foldl_cons, List.foldl_cons, ih, ih (false || (step s i).2), Bool.false_or,
        Bool.or_assoc]

theorem runAll_cons (s : σ) (i : ι) (l : List ι) :
    runAll step s (i :: l) =
      ((runAll step (step s i).1 l).1, (step s i).2 || (runAll step (step s i).1 l).2) := by
  have h := @foldl_told σ ι step (step s i).2 (step s i).1 l
  rw [← h]
  unfold runAll
  rw [List.foldl_cons, Bool.false_or]

theorem fst_runAll (s : σ) (l : List ι) :
    (runAll step s l).1 = l.foldl (fun s i => (step s i).1) s := by
  induction l generalizing s with
  | nil => rfl
  | cons i rest ih =>
      rw [runAll_cons, List.foldl_cons]
      exact ih (step s i).1

/-- Every operation counts its key once more and tells whether it is new. -/
structure Adds (inv : σ → Prop) (count : σ → κ → Nat) (key : ι → κ) (step : σ → ι → σ × Bool)
    (i : ι) : Prop where
  keeps : ∀ s, inv s → inv (step s i).1
  counts : ∀ s, inv s →
    count (step s i).1 = Function.update (count s) (key i) (count s (key i) + 1)
  tells : ∀ s, inv s → ((step s i).2 = true ↔ count s (key i) = 0)

/-- Every operation takes one of its key back and tells whether it was the last. -/
structure Removes (inv : σ → Prop) (count : σ → κ → Nat) (key : ι → κ)
    (step : σ → ι → σ × Bool) (i : ι) : Prop where
  keeps : ∀ s, inv s → inv (step s i).1
  counts : ∀ s, inv s →
    count (step s i).1 = Function.update (count s) (key i) (count s (key i) - 1)
  tells : ∀ s, inv s → ((step s i).2 = true ↔ count s (key i) = 1)

variable {l : List ι}

theorem runAll_keeps (h : ∀ i ∈ l, ∀ s, inv s → inv (step s i).1) {s : σ} (hs : inv s) :
    inv (runAll step s l).1 := by
  induction l generalizing s with
  | nil => exact hs
  | cons i rest ih =>
      rw [runAll_cons]
      apply ih
      · intro j hj
        exact h j (List.mem_cons_of_mem i hj)
      · exact h i List.mem_cons_self s hs

theorem count_runAll_adds (h : ∀ i ∈ l, Adds inv count key step i) {s : σ} (hs : inv s) (k : κ) :
    count (runAll step s l).1 k = count s k + (l.map key).count k := by
  induction l generalizing s with
  | nil => rfl
  | cons i rest ih =>
      have hi := h i List.mem_cons_self
      rw [runAll_cons, ih (fun j hj => h j (List.mem_cons_of_mem i hj)) (hi.keeps s hs),
        hi.counts s hs, List.map_cons]
      rcases eq_or_ne k (key i) with rfl | hne
      · rw [Function.update_self, List.count_cons_self]
        omega
      · rw [Function.update_of_ne hne, List.count_cons_of_ne hne.symm]

theorem told_runAll_adds (h : ∀ i ∈ l, Adds inv count key step i) {s : σ} (hs : inv s) :
    (runAll step s l).2 = true ↔ ∃ k, count s k = 0 ∧ 0 < count (runAll step s l).1 k := by
  induction l generalizing s with
  | nil =>
      constructor
      · intro hfalse
        cases hfalse
      · rintro ⟨k, hzero, hpos⟩
        exact absurd hzero (Nat.ne_of_gt hpos)
  | cons i rest ih =>
      have hi := h i List.mem_cons_self
      have hrest : ∀ j ∈ rest, Adds inv count key step j :=
        fun j hj => h j (List.mem_cons_of_mem i hj)
      have hcount := count_runAll_adds hrest (hi.keeps s hs)
      rw [runAll_cons, Bool.or_eq_true, hi.tells s hs, ih hrest (hi.keeps s hs)]
      constructor
      · rintro (hzero | ⟨k, hzero, hpos⟩)
        · refine ⟨key i, hzero, ?_⟩
          rw [hcount, hi.counts s hs, Function.update_self]
          omega
        · refine ⟨k, ?_, hpos⟩
          rw [hi.counts s hs] at hzero
          rcases eq_or_ne k (key i) with rfl | hne
          · rw [Function.update_self] at hzero
            omega
          · rw [Function.update_of_ne hne] at hzero
            exact hzero
      · rintro ⟨k, hzero, hpos⟩
        rcases eq_or_ne k (key i) with rfl | hne
        · exact .inl hzero
        · right
          refine ⟨k, ?_, hpos⟩
          rw [hi.counts s hs, Function.update_of_ne hne]
          exact hzero

theorem count_runAll_removes (h : ∀ i ∈ l, Removes inv count key step i) {s : σ} (hs : inv s)
    (k : κ) : count (runAll step s l).1 k = count s k - (l.map key).count k := by
  induction l generalizing s with
  | nil => rfl
  | cons i rest ih =>
      have hi := h i List.mem_cons_self
      rw [runAll_cons, ih (fun j hj => h j (List.mem_cons_of_mem i hj)) (hi.keeps s hs),
        hi.counts s hs, List.map_cons]
      rcases eq_or_ne k (key i) with rfl | hne
      · rw [Function.update_self, List.count_cons_self]
        omega
      · rw [Function.update_of_ne hne, List.count_cons_of_ne hne.symm]

theorem told_runAll_removes (h : ∀ i ∈ l, Removes inv count key step i) {s : σ} (hs : inv s) :
    (runAll step s l).2 = true ↔ ∃ k, 0 < count s k ∧ count (runAll step s l).1 k = 0 := by
  induction l generalizing s with
  | nil =>
      constructor
      · intro hfalse
        cases hfalse
      · rintro ⟨k, hpos, hzero⟩
        exact absurd hzero (Nat.ne_of_gt hpos)
  | cons i rest ih =>
      have hi := h i List.mem_cons_self
      have hrest : ∀ j ∈ rest, Removes inv count key step j :=
        fun j hj => h j (List.mem_cons_of_mem i hj)
      have hcount := count_runAll_removes hrest (hi.keeps s hs)
      rw [runAll_cons, Bool.or_eq_true, hi.tells s hs, ih hrest (hi.keeps s hs)]
      constructor
      · rintro (hone | ⟨k, hpos, hzero⟩)
        · refine ⟨key i, ?_, ?_⟩
          · rw [hone]
            exact Nat.one_pos
          · rw [hcount, hi.counts s hs, Function.update_self]
            omega
        · refine ⟨k, ?_, hzero⟩
          rw [hi.counts s hs] at hpos
          rcases eq_or_ne k (key i) with rfl | hne
          · rw [Function.update_self] at hpos
            omega
          · rw [Function.update_of_ne hne] at hpos
            exact hpos
      · rintro ⟨k, hpos, hzero⟩
        rcases eq_or_ne k (key i) with rfl | hne
        · rcases Nat.lt_or_ge 1 (count s (key i)) with hmore | hone
          · right
            refine ⟨key i, ?_, hzero⟩
            rw [hi.counts s hs, Function.update_self]
            omega
          · exact .inl (by omega)
        · right
          refine ⟨k, ?_, hzero⟩
          rw [hi.counts s hs, Function.update_of_ne hne]
          exact hpos

end Tally
