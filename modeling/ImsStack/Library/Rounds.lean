import Mathlib.Data.List.Range

/-!
Taking the next one again and again: what is visited where each visit shortens what is still to
come, and where it turns a round by one place; and the indices that follow one in a list.  Steps
that may fail come to nothing where one of them fails.
-/

namespace Rounds

universe u v

variable {σ : Type u} {α : Type v}

/-- What is visited in some number of takings, until nothing is left. -/
def visits (next : σ → Option (α × σ)) : Nat → σ → List α
  | 0, _ => []
  | n + 1, s =>
      match next s with
      | none => []
      | some taken => taken.1 :: visits next n taken.2

variable {next : σ → Option (α × σ)}

/-- Each taking takes the first of what is to come, and leaves the others to come. -/
structure Shortens (next : σ → Option (α × σ)) (todo : σ → List α) : Prop where
  nil : ∀ s, next s = none → todo s = []
  cons : ∀ s a s', next s = some (a, s') → todo s = a :: todo s'

/-- Each taking takes the first of the round and puts it at its end. -/
structure Turns (next : σ → Option (α × σ)) (round : σ → List α) : Prop where
  nil : ∀ s, next s = none → round s = []
  cons : ∀ s a s', next s = some (a, s') → ∃ rest, round s = a :: rest ∧ round s' = rest ++ [a]

theorem Shortens.visits_eq {todo : σ → List α} (h : Shortens next todo) {n : Nat} {s : σ}
    (hn : (todo s).length ≤ n) : visits next n s = todo s := by
  induction n generalizing s with
  | zero => exact (List.length_eq_zero_iff.mp (Nat.le_zero.mp hn)).symm
  | succ n ih =>
      unfold visits
      cases hnext : next s with
      | none => exact (h.nil s hnext).symm
      | some taken =>
          obtain ⟨a, s'⟩ := taken
          have hcons := h.cons s a s' hnext
          rw [hcons, List.length_cons] at hn
          rw [hcons]
          exact congrArg (a :: ·) (ih (Nat.le_of_succ_le_succ hn))

theorem Turns.visits_eq_take {round : σ → List α} (h : Turns next round) {n : Nat} {s : σ}
    (hn : n ≤ (round s).length) : visits next n s = (round s).take n := by
  induction n generalizing s with
  | zero => rfl
  | succ n ih =>
      unfold visits
      cases hnext : next s with
      | none =>
          rw [h.nil s hnext] at hn
          cases hn
      | some taken =>
          obtain ⟨a, s'⟩ := taken
          obtain ⟨rest, hround, hround'⟩ := h.cons s a s' hnext
          rw [hround, List.length_cons] at hn
          have hrest : n ≤ rest.length := Nat.le_of_succ_le_succ hn
          have hlength : n ≤ (round s').length := by
            rw [hround', List.length_append]
            exact Nat.le_trans hrest (Nat.le_add_right _ _)
          rw [hround, List.take_succ_cons]
          show a :: visits next n s' = a :: rest.take n
          rw [ih hlength, hround', List.take_append_of_le_length hrest]

theorem Turns.visits_eq {round : σ → List α} (h : Turns next round) (s : σ) :
    visits next (round s).length s = round s := by
  rw [h.visits_eq_take (Nat.le_refl _), List.take_length]

/-! ### Steps that may fail -/

theorem foldlM_eq_none_iff {f : σ → α → Option σ} {l : List α} {s : σ} :
    l.foldlM f s = none ↔
      ∃ before a rest s', l = before ++ a :: rest ∧ before.foldlM f s = some s' ∧
        f s' a = none := by
  induction l generalizing s with
  | nil =>
      constructor
      · intro h
        cases h
      · rintro ⟨before, a, rest, s', hl, -⟩
        cases before <;> cases hl
  | cons first l ih =>
      rw [List.foldlM_cons]
      constructor
      · intro h
        cases hfirst : f s first with
        | none => exact ⟨[], first, l, s, rfl, rfl, hfirst⟩
        | some s₁ =>
            rw [hfirst] at h
            obtain ⟨before, a, rest, s', rfl, hbefore, ha⟩ := ih.mp h
            refine ⟨first :: before, a, rest, s', rfl, ?_, ha⟩
            rw [List.foldlM_cons, hfirst]
            exact hbefore
      · rintro ⟨before, a, rest, s', hl, hbefore, ha⟩
        cases before with
        | nil =>
            obtain ⟨rfl, rfl⟩ := List.cons.inj hl
            cases hbefore
            rw [ha]
            rfl
        | cons first' before =>
            obtain ⟨rfl, rfl⟩ := List.cons.inj hl
            rw [List.foldlM_cons] at hbefore
            obtain ⟨s₁, hfirst, hrest⟩ := Option.bind_eq_some_iff.mp hbefore
            rw [hfirst]
            exact ih.mpr ⟨before, a, rest, s', rfl, hrest, ha⟩

/-! ### The indices after one -/

variable (p : Nat → Bool)

/-- The indices from one to another, without it, that meet a condition. -/
def stretch (a b : Nat) : List Nat := (List.range' a (b - a)).filter p

variable (size : Nat)

/-- The indices of a list behind one. -/
def after (i : Nat) : List Nat := stretch p (i + 1) size

/-- The indices of a list from behind one around to it. -/
def round (i : Nat) : List Nat := after p size i ++ stretch p 0 (min (i + 1) size)

variable {p size} {a b c i j : Nat} {rest : List Nat}

theorem mem_stretch : j ∈ stretch p a b ↔ a ≤ j ∧ j < b ∧ p j = true := by
  unfold stretch
  rw [List.mem_filter, List.mem_range'_1]
  constructor
  · rintro ⟨⟨hle, hlt⟩, hp⟩
    exact ⟨hle, by omega, hp⟩
  · rintro ⟨hle, hlt, hp⟩
    exact ⟨⟨hle, by omega⟩, hp⟩

theorem stretch_append (hab : a ≤ b) (hbc : b ≤ c) :
    stretch p a b ++ stretch p b c = stretch p a c := by
  have hrange : List.range' a (b - a) ++ List.range' b (c - b) = List.range' a (c - a) := by
    have h := List.range'_append_1 (s := a) (m := b - a) (n := c - b)
    rw [Nat.add_sub_cancel' hab] at h
    rw [h]
    congr 1
    omega
  unfold stretch
  rw [← List.filter_append, hrange]

theorem stretch_eq_nil (h : ∀ k, a ≤ k → k < b → p k = false) : stretch p a b = [] := by
  apply List.eq_nil_iff_forall_not_mem.mpr
  intro k hk
  obtain ⟨hle, hlt, hp⟩ := mem_stretch.mp hk
  rw [h k hle hlt] at hp
  cases hp

theorem stretch_of_le (h : b ≤ a) : stretch p a b = [] := by
  apply stretch_eq_nil
  intro k hle hlt
  omega

theorem stretch_succ (hab : a < b) :
    stretch p a b = if p a then a :: stretch p (a + 1) b else stretch p (a + 1) b := by
  have hlength : b - a = (b - (a + 1)) + 1 := by omega
  unfold stretch
  rw [hlength, List.range'_succ, List.filter_cons]

theorem stretch_eq_cons (h : stretch p a b = j :: rest) :
    a ≤ j ∧ j < b ∧ p j = true ∧ stretch p a j = [] ∧ rest = stretch p (j + 1) b := by
  obtain ⟨len, hlen⟩ : ∃ len, len = b - a := ⟨_, rfl⟩
  induction len generalizing a with
  | zero =>
      rw [stretch_of_le (by omega)] at h
      cases h
  | succ len ih =>
      have hab : a < b := by omega
      rw [stretch_succ hab] at h
      cases hp : p a with
      | true =>
          rw [if_pos hp] at h
          obtain ⟨rfl, rfl⟩ := List.cons.inj h
          exact ⟨Nat.le_refl _, hab, hp, stretch_of_le (Nat.le_refl _), rfl⟩
      | false =>
          have hne : ¬p a = true := by
            rw [hp]
            exact Bool.false_ne_true
          rw [if_neg hne] at h
          obtain ⟨hle, hlt, hpj, hbefore, hrest⟩ := ih h (by omega)
          refine ⟨by omega, hlt, hpj, ?_, hrest⟩
          rw [stretch_succ (by omega), if_neg hne]
          exact hbefore

theorem stretch_to_self (hle : a ≤ j) (hp : p j = true) :
    stretch p a (j + 1) = stretch p a j ++ [j] := by
  rw [← stretch_append hle (Nat.le_succ j), stretch_succ (Nat.lt_succ_self j), if_pos hp,
    stretch_of_le (Nat.le_refl _)]

theorem after_of_cons (h : after p size i = j :: rest) : after p size j = rest :=
  (stretch_eq_cons h).2.2.2.2.symm

theorem round_of_cons (h : round p size i = j :: rest) : round p size j = rest ++ [j] := by
  unfold round at h ⊢
  cases hafter : after p size i with
  | nil =>
      rw [hafter, List.nil_append] at h
      obtain ⟨-, hlt, hp, hbefore, hrest⟩ := stretch_eq_cons h
      have hmin : min (j + 1) size = j + 1 := by omega
      rw [hmin, stretch_to_self (Nat.zero_le j) hp, hbefore, List.nil_append, hrest]
      -- Behind the index none meets the condition.
      have hend : stretch p (min (i + 1) size) size = [] := by
        rcases Nat.le_total (i + 1) size with hle | hle
        · rw [Nat.min_eq_left hle]
          exact hafter
        · rw [Nat.min_eq_right hle]
          exact stretch_of_le (Nat.le_refl _)
      have happend : stretch p (j + 1) (min (i + 1) size) ++ stretch p (min (i + 1) size) size =
          stretch p (j + 1) size := stretch_append (by omega) (by omega)
      rw [hend, List.append_nil] at happend
      exact congrArg (· ++ [j]) happend.symm
  | cons first rest' =>
      rw [hafter, List.cons_append] at h
      obtain ⟨rfl, rfl⟩ := List.cons.inj h
      obtain ⟨hle, hlt, hp, hbetween, -⟩ := stretch_eq_cons hafter
      have hmini : min (i + 1) size = i + 1 := by omega
      have hminj : min (first + 1) size = first + 1 := by omega
      have happend : stretch p 0 (i + 1) ++ stretch p (i + 1) first = stretch p 0 first :=
        stretch_append (by omega) hle
      rw [hbetween, List.append_nil] at happend
      rw [after_of_cons hafter, hmini, hminj, stretch_to_self (Nat.zero_le first) hp, happend,
        List.append_assoc]

theorem round_perm : (round p size i).Perm (stretch p 0 size) := by
  unfold round after
  rcases Nat.le_total (i + 1) size with hle | hle
  · rw [Nat.min_eq_left hle, ← stretch_append (Nat.zero_le _) hle]
    exact List.perm_append_comm
  · rw [Nat.min_eq_right hle, stretch_of_le hle]
    exact List.Perm.refl _

end Rounds
