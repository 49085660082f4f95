import Mathlib.Data.List.Basic

/-!
A loop that takes the first element of a list that a test accepts.  The test may be undefined at
an element, and it may disagree with the predicate that it is meant to decide; the loop finds the
first element with the predicate just if neither happens at an element that it has to look at.
-/

namespace Library.FirstAccepted

universe u v

variable {α : Type u} {β : Type v}

/-- The loop from index `i` on: the index at which it ends, with what the test gave there. -/
def firstAccepted (test : α → Option (Option β)) (i : Nat) : List α → Option (Nat × Option β)
  | [] => some (i, none)
  | a :: l =>
    match test a with
    | none => none
    | some none => firstAccepted test (i + 1) l
    | some (some b) => some (i, some b)

/-- The index of the first element with a predicate, counted from `i`. -/
def IsFirst (Q : α → Prop) (i : Nat) (l : List α) (found : Bool) (index : Nat) : Prop :=
  if found then
    ∃ before a after, l = before ++ a :: after ∧ index = i + before.length ∧ Q a ∧
      ∀ b ∈ before, ¬Q b
  else ∀ a ∈ l, ¬Q a

/-- The test is defined and decides the predicate. -/
def Agrees (test : α → Option (Option β)) (Q : α → Prop) (a : α) : Prop :=
  ∃ r, test a = some r ∧ (r.isSome = true ↔ Q a)

/-- The test decides the predicate at every element up to the first one that has it. -/
def AgreesUpToFirst (test : α → Option (Option β)) (Q : α → Prop) (l : List α) : Prop :=
  ∀ before a after, l = before ++ a :: after → (∀ b ∈ before, ¬Q b) → Agrees test Q a

variable {test : α → Option (Option β)} {Q : α → Prop} {i index : Nat} {a : α} {l : List α}

theorem isFirst_cons_of_pos {found : Bool} (ha : Q a) :
    IsFirst Q i (a :: l) found index ↔ found = true ∧ index = i := by
  constructor
  · intro h
    cases found with
    | false => exact absurd ha (h a List.mem_cons_self)
    | true =>
        obtain ⟨before, b, after, heq, hindex, -, hbefore⟩ := h
        cases before with
        | nil => exact ⟨rfl, hindex⟩
        | cons c before =>
            obtain rfl := (List.cons.inj heq).1
            exact absurd ha (hbefore a List.mem_cons_self)
  · rintro ⟨rfl, rfl⟩
    exact ⟨[], a, l, rfl, rfl, ha, fun b hb => absurd hb List.not_mem_nil⟩

theorem isFirst_cons_of_neg {found : Bool} (ha : ¬Q a) :
    IsFirst Q i (a :: l) found index ↔ IsFirst Q (i + 1) l found index := by
  cases found with
  | false =>
      constructor
      · intro h b hb
        exact h b (List.mem_cons_of_mem a hb)
      · intro h b hb
        rcases List.mem_cons.mp hb with rfl | hb
        · exact ha
        · exact h b hb
  | true =>
      constructor
      · rintro ⟨before, b, after, heq, hindex, hb, hbefore⟩
        cases before with
        | nil =>
            obtain rfl := (List.cons.inj heq).1
            exact absurd hb ha
        | cons c before =>
            refine ⟨before, b, after, (List.cons.inj heq).2, ?_, hb, ?_⟩
            · rw [hindex, List.length_cons]
              omega
            · intro d hd
              exact hbefore d (List.mem_cons_of_mem c hd)
      · rintro ⟨before, b, after, rfl, hindex, hb, hbefore⟩
        refine ⟨a :: before, b, after, rfl, ?_, hb, ?_⟩
        · rw [hindex, List.length_cons]
          omega
        · intro d hd
          rcases List.mem_cons.mp hd with rfl | hd
          · exact ha
          · exact hbefore d hd

theorem agreesUpToFirst_cons_of_pos (ha : Q a) :
    AgreesUpToFirst test Q (a :: l) ↔ Agrees test Q a := by
  constructor
  · intro h
    exact h [] a l rfl fun b hb => absurd hb List.not_mem_nil
  · intro h before b after heq hbefore
    cases before with
    | nil =>
        obtain rfl := (List.cons.inj heq).1
        exact h
    | cons c before =>
        obtain rfl := (List.cons.inj heq).1
        exact absurd ha (hbefore a List.mem_cons_self)

theorem agreesUpToFirst_cons_of_neg (ha : ¬Q a) :
    AgreesUpToFirst test Q (a :: l) ↔ Agrees test Q a ∧ AgreesUpToFirst test Q l := by
  constructor
  · intro h
    constructor
    · exact h [] a l rfl fun b hb => absurd hb List.not_mem_nil
    · intro before b after heq hbefore
      apply h (a :: before) b after
      · rw [heq]
        rfl
      · intro d hd
        rcases List.mem_cons.mp hd with rfl | hd
        · exact ha
        · exact hbefore d hd
  · rintro ⟨hagrees, h⟩ before b after heq hbefore
    cases before with
    | nil =>
        obtain rfl := (List.cons.inj heq).1
        exact hagrees
    | cons c before =>
        apply h before b after (List.cons.inj heq).2
        intro d hd
        exact hbefore d (List.mem_cons_of_mem c hd)

theorem firstAccepted_cons_undefined (h : test a = none) :
    firstAccepted test i (a :: l) = none := by
  unfold firstAccepted
  rw [h]

theorem firstAccepted_cons_refused (h : test a = some none) :
    firstAccepted test i (a :: l) = firstAccepted test (i + 1) l := by
  conv =>
    lhs
    unfold firstAccepted
  rw [h]

theorem firstAccepted_cons_accepted {b : β} (h : test a = some (some b)) :
    firstAccepted test i (a :: l) = some (i, some b) := by
  unfold firstAccepted
  rw [h]

theorem le_of_firstAccepted {r : Option β} (h : firstAccepted test i l = some (index, r)) :
    i ≤ index := by
  induction l generalizing i with
  | nil =>
      obtain ⟨rfl, -⟩ := Prod.mk.inj (Option.some.inj h)
      exact Nat.le_refl i
  | cons a l ih =>
      rcases htest : test a with _ | _ | b
      · rw [firstAccepted_cons_undefined htest] at h
        cases h
      · rw [firstAccepted_cons_refused htest] at h
        have := ih h
        omega
      · rw [firstAccepted_cons_accepted htest] at h
        obtain ⟨rfl, -⟩ := Prod.mk.inj (Option.some.inj h)
        exact Nat.le_refl i

theorem firstAccepted_eq_accepted {b : β} (h : firstAccepted test i l = some (index, some b)) :
    ∃ a, l[index - i]? = some a ∧ test a = some (some b) := by
  induction l generalizing i with
  | nil =>
      obtain ⟨-, hr⟩ := Prod.mk.inj (Option.some.inj h)
      cases hr
  | cons a l ih =>
      rcases htest : test a with _ | _ | b'
      · rw [firstAccepted_cons_undefined htest] at h
        cases h
      · rw [firstAccepted_cons_refused htest] at h
        have hle := le_of_firstAccepted h
        obtain ⟨c, hget, hc⟩ := ih h
        refine ⟨c, ?_, hc⟩
        have hindex : index - i = index - (i + 1) + 1 := by omega
        rw [hindex, List.getElem?_cons_succ]
        exact hget
      · rw [firstAccepted_cons_accepted htest] at h
        obtain ⟨rfl, hr⟩ := Prod.mk.inj (Option.some.inj h)
        obtain rfl := Option.some.inj hr
        refine ⟨a, ?_, htest⟩
        rw [Nat.sub_self]
        rfl

/-- The loop finds the first element with the predicate just if the test decides it up to there. -/
theorem firstAccepted_isFirst_iff (test : α → Option (Option β)) (Q : α → Prop) (i : Nat)
    (l : List α) :
    (∃ index r, firstAccepted test i l = some (index, r) ∧ IsFirst Q i l r.isSome index) ↔
      AgreesUpToFirst test Q l := by
  induction l generalizing i with
  | nil =>
      constructor
      · rintro - before a after heq
        cases before <;> cases heq
      · intro
        refine ⟨i, none, rfl, ?_⟩
        intro a ha
        cases ha
  | cons a l ih =>
      by_cases ha : Q a
      · rw [agreesUpToFirst_cons_of_pos ha]
        constructor
        · rintro ⟨index, r, hrun, hfirst⟩
          obtain ⟨hr, rfl⟩ := (isFirst_cons_of_pos ha).mp hfirst
          rcases htest : test a with _ | _ | b
          · rw [firstAccepted_cons_undefined htest] at hrun
            cases hrun
          · rw [firstAccepted_cons_refused htest] at hrun
            exact absurd (le_of_firstAccepted hrun) (Nat.not_succ_le_self index)
          · exact ⟨some b, htest, iff_of_true rfl ha⟩
        · rintro ⟨r, htest, hiff⟩
          obtain ⟨b, rfl⟩ := Option.isSome_iff_exists.mp (hiff.mpr ha)
          exact ⟨i, some b, firstAccepted_cons_accepted htest,
            (isFirst_cons_of_pos ha).mpr ⟨rfl, rfl⟩⟩
      · rw [agreesUpToFirst_cons_of_neg ha]
        constructor
        · rintro ⟨index, r, hrun, hfirst⟩
          have hrest := (isFirst_cons_of_neg ha).mp hfirst
          rcases htest : test a with _ | _ | b
          · rw [firstAccepted_cons_undefined htest] at hrun
            cases hrun
          · rw [firstAccepted_cons_refused htest] at hrun
            refine ⟨⟨none, htest, iff_of_false Bool.false_ne_true ha⟩, ?_⟩
            exact (ih (i + 1)).mp ⟨index, r, hrun, hrest⟩
          · rw [firstAccepted_cons_accepted htest] at hrun
            obtain ⟨rfl, rfl⟩ := Prod.mk.inj (Option.some.inj hrun)
            obtain ⟨before, c, after, -, hindex, -⟩ := hrest
            omega
        · rintro ⟨⟨r, htest, hiff⟩, h⟩
          have hr : r = none := by
            cases r with
            | none => rfl
            | some b => exact absurd (hiff.mp rfl) ha
          obtain ⟨index, r', hrun, hfirst⟩ := (ih (i + 1)).mpr h
          refine ⟨index, r', ?_, (isFirst_cons_of_neg ha).mpr hfirst⟩
          rw [firstAccepted_cons_refused (hr ▸ htest)]
          exact hrun

end Library.FirstAccepted
