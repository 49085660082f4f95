import Mathlib.Data.List.Basic
import Mathlib.Data.Option.Basic

/-!
Lists read element by element by a reader that may fail, and printed back.
-/

namespace ImsStack.Library.OptionTraverse

variable {α β : Type*} {read : β → Option α} {print : α → β}

@[simp]
theorem mapM_nil : ([] : List β).mapM read = some [] := rfl

@[simp]
theorem mapM_cons (b : β) (bs : List β) :
    (b :: bs).mapM read = (read b).bind fun a => (bs.mapM read).map (a :: ·) := by
  rw [List.mapM_cons]
  cases read b with
  | none => rfl
  | some a => cases bs.mapM read <;> rfl

theorem mapM_cons_eq_some_iff {b : β} {bs : List β} {as : List α} :
    (b :: bs).mapM read = some as ↔
      ∃ a rest, read b = some a ∧ bs.mapM read = some rest ∧ as = a :: rest := by
  rw [mapM_cons]
  constructor
  · intro h
    obtain ⟨a, ha, h⟩ := Option.bind_eq_some_iff.mp h
    obtain ⟨rest, hrest, h⟩ := Option.map_eq_some_iff.mp h
    exact ⟨a, rest, ha, hrest, h.symm⟩
  · rintro ⟨a, rest, ha, hrest, rfl⟩
    rw [ha, hrest]
    rfl

theorem mapM_append_eq_some_iff {bs bs' : List β} {as : List α} :
    (bs ++ bs').mapM read = some as ↔
      ∃ front rest, bs.mapM read = some front ∧ bs'.mapM read = some rest ∧ as = front ++ rest := by
  induction bs generalizing as with
  | nil => simp
  | cons b bs ih =>
    rw [List.cons_append, mapM_cons_eq_some_iff]
    constructor
    · rintro ⟨a, as', ha, has, rfl⟩
      obtain ⟨front, rest, hfront, hrest, rfl⟩ := ih.mp has
      exact ⟨a :: front, rest, mapM_cons_eq_some_iff.mpr ⟨a, front, ha, hfront, rfl⟩, hrest, rfl⟩
    · rintro ⟨front, rest, hfront, hrest, rfl⟩
      obtain ⟨a, front', ha, hfront', rfl⟩ := mapM_cons_eq_some_iff.mp hfront
      exact ⟨a, front' ++ rest, ha, ih.mpr ⟨front', rest, hfront', hrest, rfl⟩, rfl⟩

@[simp]
theorem guard_eq_some_iff {p : Prop} [Decidable p] {u : Unit} :
    (guard p : Option Unit) = some u ↔ p := by
  by_cases hp : p <;> simp [guard, hp, failure]

theorem guard_of {p : Prop} [Decidable p] (hp : p) : (guard p : Option Unit) = some () :=
  guard_eq_some_iff.mpr hp

theorem exists_mem_of_mapM_eq_some {bs : List β} {as : List α} (h : bs.mapM read = some as) :
    ∀ a ∈ as, ∃ b ∈ bs, read b = some a := by
  induction bs generalizing as with
  | nil => simp_all
  | cons b bs ih =>
    obtain ⟨a, rest, ha, hrest, rfl⟩ := mapM_cons_eq_some_iff.mp h
    intro a' ha'
    rcases List.mem_cons.mp ha' with rfl | ha'
    · exact ⟨b, by simp, ha⟩
    · obtain ⟨b', hb', hread⟩ := ih hrest a' ha'
      exact ⟨b', by simp [hb'], hread⟩

theorem exists_read_of_mapM_eq_some {bs : List β} {as : List α} (h : bs.mapM read = some as) :
    ∀ b ∈ bs, ∃ a ∈ as, read b = some a := by
  induction bs generalizing as with
  | nil => simp
  | cons b bs ih =>
    obtain ⟨a, rest, ha, hrest, rfl⟩ := mapM_cons_eq_some_iff.mp h
    intro b' hb'
    rcases List.mem_cons.mp hb' with rfl | hb'
    · exact ⟨a, by simp, ha⟩
    · obtain ⟨a', ha', hread⟩ := ih hrest b' hb'
      exact ⟨a', by simp [ha'], hread⟩

theorem exists_mapM_eq_some_iff {bs : List β} :
    (∃ as, bs.mapM read = some as) ↔ ∀ b ∈ bs, ∃ a, read b = some a := by
  constructor
  · rintro ⟨as, h⟩ b hb
    obtain ⟨a, -, ha⟩ := exists_read_of_mapM_eq_some h b hb
    exact ⟨a, ha⟩
  · intro h
    induction bs with
    | nil => exact ⟨[], rfl⟩
    | cons b bs ih =>
      obtain ⟨⟨a, ha⟩, hbs⟩ := List.forall_mem_cons.mp h
      obtain ⟨as, has⟩ := ih hbs
      exact ⟨a :: as, mapM_cons_eq_some_iff.mpr ⟨a, as, ha, has, rfl⟩⟩

theorem mapM_map_eq_some_iff {as : List α} :
    (as.map print).mapM read = some as ↔ ∀ a ∈ as, read (print a) = some a := by
  induction as with
  | nil => simp
  | cons a as ih =>
    rw [List.map_cons, mapM_cons_eq_some_iff, List.forall_mem_cons, ← ih]
    constructor
    · rintro ⟨a', rest, ha, hrest, h⟩
      obtain ⟨rfl, rfl⟩ := List.cons.inj h
      exact ⟨ha, hrest⟩
    · rintro ⟨ha, hrest⟩
      exact ⟨a, as, ha, hrest, rfl⟩

theorem forall_mem_iff_of_mapM_eq_some {bs : List β} {as : List α} {P : α → Prop} {Q : β → Prop}
    (h : bs.mapM read = some as) (hPQ : ∀ a b, read b = some a → (P a ↔ Q b)) :
    (∀ a ∈ as, P a) ↔ ∀ b ∈ bs, Q b := by
  constructor
  · intro hP b hb
    obtain ⟨a, ha, hread⟩ := exists_read_of_mapM_eq_some h b hb
    exact (hPQ a b hread).mp (hP a ha)
  · intro hQ a ha
    obtain ⟨b, hb, hread⟩ := exists_mem_of_mapM_eq_some h a ha
    exact (hPQ a b hread).mpr (hQ b hb)

theorem length_of_mapM_eq_some {bs : List β} {as : List α} (h : bs.mapM read = some as) :
    as.length = bs.length := by
  induction bs generalizing as with
  | nil => simp_all
  | cons b bs ih =>
    obtain ⟨a, rest, -, hrest, rfl⟩ := mapM_cons_eq_some_iff.mp h
    rw [List.length_cons, List.length_cons, ih hrest]

/-- The print of a list that leaves out the elements that are not valid. -/
def printValid (valid : α → Bool) (print : α → β) (as : List α) : List β :=
  as.flatMap fun a => if valid a then [print a] else []

theorem printValid_cons (valid : α → Bool) (a : α) (as : List α) :
    printValid valid print (a :: as) =
      (if valid a then [print a] else []) ++ printValid valid print as := rfl

theorem printValid_eq_map {valid : α → Bool} {as : List α} (h : ∀ a ∈ as, valid a = true) :
    printValid valid print as = as.map print := by
  induction as with
  | nil => rfl
  | cons a as ih =>
    rw [List.forall_mem_cons] at h
    rw [printValid_cons, if_pos h.1, ih h.2, List.map_cons, List.singleton_append]

theorem length_printValid_le (print : α → β) (valid : α → Bool) (as : List α) :
    (printValid valid print as).length ≤ as.length := by
  induction as with
  | nil => exact Nat.le_refl 0
  | cons a as ih =>
    rw [printValid_cons, List.length_append, List.length_cons]
    split
    · rw [List.length_singleton]
      omega
    · rw [List.length_nil]
      omega

theorem valid_of_length_printValid {valid : α → Bool} {as : List α}
    (h : (printValid valid print as).length = as.length) : ∀ a ∈ as, valid a = true := by
  induction as with
  | nil => simp
  | cons a as ih =>
    have hle := length_printValid_le print valid as
    rw [printValid_cons, List.length_append, List.length_cons] at h
    rw [List.forall_mem_cons]
    split at h
    · next hvalid =>
      rw [List.length_singleton] at h
      exact ⟨hvalid, ih (by omega)⟩
    · rw [List.length_nil] at h
      omega

/-- A list is read back from the print of its valid elements if and only if each element is valid
and is read back. -/
theorem mapM_printValid_eq_some_iff {valid : α → Bool} {as : List α} :
    (printValid valid print as).mapM read = some as ↔
      ∀ a ∈ as, valid a = true ∧ read (print a) = some a := by
  constructor
  · intro h
    have hvalid := valid_of_length_printValid (length_of_mapM_eq_some h).symm
    rw [printValid_eq_map hvalid, mapM_map_eq_some_iff] at h
    exact fun a ha => ⟨hvalid a ha, h a ha⟩
  · intro h
    rw [printValid_eq_map fun a ha => (h a ha).1, mapM_map_eq_some_iff]
    exact fun a ha => (h a ha).2

/-- A list is extended by whatever is read from another one. -/
def Extends (old : List α) (read : β → Option α) (bs : List β) (new : List α) : Prop :=
  ∃ as, bs.mapM read = some as ∧ new = old ++ as

@[simp]
theorem extends_nil {old new : List α} : Extends old read [] new ↔ new = old := by
  simp [Extends]

theorem extends_cons {old new : List α} {b : β} {bs : List β} :
    Extends old read (b :: bs) new ↔ ∃ a, read b = some a ∧ Extends (old ++ [a]) read bs new := by
  constructor
  · rintro ⟨as, has, rfl⟩
    obtain ⟨a, rest, ha, hrest, rfl⟩ := mapM_cons_eq_some_iff.mp has
    exact ⟨a, ha, rest, hrest, by simp⟩
  · rintro ⟨a, ha, rest, hrest, rfl⟩
    exact ⟨a :: rest, mapM_cons_eq_some_iff.mpr ⟨a, rest, ha, hrest, rfl⟩, by simp⟩

theorem extends_option_cons {old new : Option α} {b : β} {bs : List β} :
    Extends old.toList read (b :: bs) new.toList ↔
      old = none ∧ ∃ a, read b = some a ∧ Extends (some a).toList read bs new.toList := by
  rw [extends_cons]
  constructor
  · rintro ⟨a, ha, rest, hrest, hnew⟩
    have hlength : new.toList.length ≤ 1 := by cases new <;> simp
    rw [hnew] at hlength
    cases old with
    | none => exact ⟨rfl, a, ha, rest, hrest, hnew⟩
    | some x =>
      simp only [Option.toList_some, List.length_append, List.length_singleton] at hlength
      omega
  · rintro ⟨rfl, a, ha, h⟩
    exact ⟨a, ha, h⟩

theorem extends_nil_left {bs : List β} {new : List α} :
    Extends [] read bs new ↔ bs.mapM read = some new := by
  simp [Extends]

end ImsStack.Library.OptionTraverse
