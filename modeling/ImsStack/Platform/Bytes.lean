import Mathlib.Data.List.Basic

/-!
Arrays of bytes as the Java classes use them, `java.util.Arrays::copyOfRange` and
`ImsUtils::hexStringToBytes`.  An exception is `none`.
-/

namespace ImsStack.Platform.Bytes

abbrev Octets := List UInt8

/-- The conversion of an integer to `byte`. -/
def narrow (n : Int) : UInt8 := .ofNat (n % 256).toNat

theorem narrow_toNat (n : Int) : ((narrow n).toNat : Int) = n % 256 := by
  have hlt : (n % 256).toNat < 256 := by omega
  rw [narrow, UInt8.toNat_ofNat', Nat.mod_eq_of_lt hlt]
  omega

theorem narrow_octet (octet : UInt8) : narrow octet.toNat = octet := by
  apply UInt8.toNat_inj.mp
  have hnarrow := narrow_toNat octet.toNat
  have hlt := octet.toNat_lt
  omega

theorem narrow_length_iff (bytes : Octets) :
    (narrow bytes.length).toNat = bytes.length ↔ bytes.length < 256 := by
  have hnarrow := narrow_toNat bytes.length
  omega

/-- `Arrays.copyOfRange`: what lies past the end of the array is zero. -/
def copyOfRange (original : Octets) (start stop : Nat) : Option Octets :=
  if original.length < start then none
  else
    let copied := (original.drop start).take (stop - start)
    some (copied ++ List.replicate (stop - start - copied.length) 0)

theorem length_copyOfRange {original copy : Octets} {start n : Nat}
    (hcopy : copyOfRange original start (start + n) = some copy) : copy.length = n := by
  simp only [copyOfRange, Nat.add_sub_cancel_left, Option.ite_none_left_eq_some,
    Option.some.injEq] at hcopy
  obtain ⟨-, rfl⟩ := hcopy
  simp only [List.length_append, List.length_take, List.length_drop, List.length_replicate]
  omega

theorem copyOfRange_eq_take_iff {original copy : Octets} {start n : Nat}
    (hcopy : copyOfRange original start (start + n) = some copy) :
    copy = (original.drop start).take n ↔ start + n ≤ original.length := by
  have hlength := length_copyOfRange hcopy
  simp only [copyOfRange, Nat.add_sub_cancel_left, Option.ite_none_left_eq_some,
    Option.some.injEq] at hcopy
  obtain ⟨hstart, hcopy⟩ := hcopy
  constructor
  · intro htake
    have htaken := congrArg List.length htake
    simp only [List.length_take, List.length_drop, hlength] at htaken
    omega
  · intro hle
    have hpadding : n - ((original.drop start).take n).length = 0 := by
      simp only [List.length_take, List.length_drop]
      omega
    rw [← hcopy, hpadding, List.replicate_zero, List.append_nil]

theorem copyOfRange_append (bytes tail : Octets) :
    copyOfRange (bytes ++ tail) bytes.length (bytes.length + tail.length) = some tail := by
  simp [copyOfRange]

/-- `ImsUtils::hexCharToInt`. -/
def hexCharToInt (c : Char) : Option Nat :=
  if '0' ≤ c ∧ c ≤ '9' then some (c.toNat - '0'.toNat)
  else if 'A' ≤ c ∧ c ≤ 'F' then some (c.toNat - 'A'.toNat + 10)
  else if 'a' ≤ c ∧ c ≤ 'f' then some (c.toNat - 'a'.toNat + 10)
  else none

/-- `ImsUtils::hexStringToBytes`. -/
def hexStringToBytes : List Char → Option Octets
  | [] => some []
  | [_] => none
  | high :: low :: rest => do
    let high ← hexCharToInt high
    let low ← hexCharToInt low
    let bytes ← hexStringToBytes rest
    some (.ofNat (high <<< 4 ||| low) :: bytes)

end ImsStack.Platform.Bytes
