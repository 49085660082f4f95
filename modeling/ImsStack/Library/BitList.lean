import Mathlib.Algebra.Group.Nat.Even
import Mathlib.Tactic.Ring

/-!
Numbers as lists of bits, the most significant bit first.
-/

namespace ImsStack.Library.BitList

/-- The number that the bits are. -/
def ofBits : List Bool → Nat
  | [] => 0
  | b :: rest => b.toNat * 2 ^ rest.length + ofBits rest

/-- The last `width` bits of a number. -/
def toBits : Nat → Nat → List Bool
  | 0, _ => []
  | width + 1, n => toBits width (n / 2) ++ [decide (n % 2 = 1)]

/-- The bits in bytes, the last of which is filled up with zeros. -/
def pack : Nat → List Bool → List UInt8
  | 0, _ => []
  | n + 1, bits =>
    UInt8.ofNat (ofBits (bits.take 8) * 2 ^ (8 - (bits.take 8).length)) :: pack n (bits.drop 8)

/-- The bits of bytes. -/
def ofBytes (bytes : List UInt8) : List Bool := bytes.flatMap fun b => toBits 8 b.toNat

section ofBits

variable {a b bits : List Bool}

@[simp]
theorem length_toBits (width n : Nat) : (toBits width n).length = width := by
  induction width generalizing n with
  | zero => rfl
  | succ width ih => simp [toBits, ih]

theorem ofBits_append : ofBits (a ++ b) = ofBits a * 2 ^ b.length + ofBits b := by
  induction a with
  | nil => simp [ofBits]
  | cons bit rest ih =>
    simp only [List.cons_append, ofBits, ih, List.length_append, Nat.pow_add]
    ring

theorem ofBits_lt : ofBits bits < 2 ^ bits.length := by
  induction bits with
  | nil => exact Nat.one_pos
  | cons bit rest ih =>
    have hbit : bit.toNat ≤ 1 := Bool.toNat_le bit
    have hshifted := Nat.mul_le_mul_right (2 ^ rest.length) hbit
    simp only [ofBits, List.length_cons, Nat.pow_succ]
    omega

theorem ofBits_toBits (width n : Nat) : ofBits (toBits width n) = n % 2 ^ width := by
  induction width generalizing n with
  | zero => simp [toBits, ofBits, Nat.mod_one]
  | succ width ih =>
    have hbit : ofBits [decide (n % 2 = 1)] = n % 2 := by
      rcases Nat.mod_two_eq_zero_or_one n with h | h <;> simp [ofBits, h]
    rw [toBits, ofBits_append, ih, hbit, List.length_singleton, Nat.pow_one, Nat.pow_succ,
      Nat.mul_comm (2 ^ width) 2, Nat.mod_mul]
    ring

theorem ofBits_take_drop {offset k : Nat} (h : offset + k ≤ bits.length) :
    ofBits ((bits.drop offset).take k) =
      ofBits bits / 2 ^ (bits.length - offset - k) % 2 ^ k := by
  have hsplit : bits = bits.take offset ++ ((bits.drop offset).take k ++
      (bits.drop offset).drop k) := by
    rw [List.take_append_drop, List.take_append_drop]
  have hmiddle : ((bits.drop offset).take k).length = k := by
    rw [List.length_take, List.length_drop]
    omega
  have hlast : ((bits.drop offset).drop k).length = bits.length - offset - k := by
    rw [List.length_drop, List.length_drop]
  have hlt := @ofBits_lt ((bits.drop offset).take k)
  have hrest := @ofBits_lt ((bits.drop offset).drop k)
  rw [hmiddle] at hlt
  rw [hlast] at hrest
  have hvalue : ofBits bits = (ofBits (bits.take offset) * 2 ^ k +
      ofBits ((bits.drop offset).take k)) * 2 ^ (bits.length - offset - k) +
      ofBits ((bits.drop offset).drop k) := by
    conv_lhs => rw [hsplit]
    rw [ofBits_append, ofBits_append, List.length_append, hmiddle, hlast, Nat.pow_add]
    ring
  rw [hvalue, Nat.mul_comm _ (2 ^ (bits.length - offset - k)),
    Nat.mul_add_div (Nat.two_pow_pos _), Nat.div_eq_of_lt hrest, Nat.add_zero,
    Nat.mul_comm _ (2 ^ k), Nat.mul_add_mod, Nat.mod_eq_of_lt hlt]

end ofBits

section ofBytes

variable {bytes : List UInt8}

@[simp]
theorem length_ofBytes (bytes : List UInt8) : (ofBytes bytes).length = 8 * bytes.length := by
  induction bytes with
  | nil => rfl
  | cons b rest ih =>
    simp only [ofBytes, List.flatMap_cons, List.length_append, length_toBits, List.length_cons]
      at ih ⊢
    omega

theorem ofBytes_cons (b : UInt8) (rest : List UInt8) :
    ofBytes (b :: rest) = toBits 8 b.toNat ++ ofBytes rest := rfl

theorem drop_ofBytes (n : Nat) : (ofBytes bytes).drop (8 * n) = ofBytes (bytes.drop n) := by
  induction n generalizing bytes with
  | zero => rfl
  | succ n ih =>
    cases bytes with
    | nil => simp [ofBytes]
    | cons b rest =>
      rw [ofBytes_cons, List.drop_succ_cons, ← ih, Nat.mul_succ, Nat.add_comm, ← List.drop_drop,
        List.drop_left' (length_toBits 8 _)]

end ofBytes

end ImsStack.Library.BitList
