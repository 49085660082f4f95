/-!
Integers of a bounded width: a result that does not fit is undefined, or wraps.
-/

namespace ImsStack.Library.BoundedInt

/-- `n` is a value of a signed 32-bit type. -/
def Fits (n : Int) : Prop := -0x80000000 ≤ n ∧ n ≤ 0x7FFFFFFF

instance (n : Int) : Decidable (Fits n) := inferInstanceAs (Decidable (_ ∧ _))

/-- The result of an operation whose overflow is undefined. -/
def checked (n : Int) : Option Int := if Fits n then some n else none

theorem checked_of_fits {n : Int} (h : Fits n) : checked n = some n := if_pos h

theorem checked_eq_some_iff {n m : Int} : checked n = some m ↔ Fits n ∧ n = m := by
  unfold checked
  constructor
  · intro h
    split at h
    · next hn => exact ⟨hn, Option.some.inj h⟩
    · cases h
  · rintro ⟨hn, rfl⟩
    exact if_pos hn

/-- The result of an operation that wraps. -/
def wrap (n : Int) : Int := n.bmod 0x100000000

theorem wrap_of_fits {n : Int} (h : Fits n) : wrap n = n := by
  unfold wrap Fits at *
  rw [Int.bmod_eq_emod]
  split <;> omega

theorem fits_toInt (n : Int32) : Fits n.toInt :=
  ⟨Int32.le_toInt n, Int32.toInt_le n⟩

end ImsStack.Library.BoundedInt
