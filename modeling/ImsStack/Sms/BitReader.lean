import ImsStack.Sms.BitwiseInputStream
import Mathlib.Tactic.IntervalCases

/-!
The stream is a reader of the list of bits, except where a sum of a position and a number of bits
overflows, and where no bits are read.
-/

namespace ImsStack.Sms

open Library.BitList Library.BoundedInt

namespace BitwiseInputStream

/-- The bits that are not read yet. -/
def remaining (s : BitwiseInputStream) : List Bool := (ofBytes s.mBuf).drop s.mPos.toNat

/-- The bits of the byte at the position that are read already. -/
def readOfByte (s : BitwiseInputStream) : List Bool :=
  ((ofBytes s.mBuf).drop (8 * (s.mPos.toNat / 8))).take (s.mPos.toNat % 8)

/-- The number of the bits of the buffer fits, and the position is in it. -/
structure Valid (s : BitwiseInputStream) : Prop where
  fits : Fits (8 * s.mBuf.length)
  mEnd : s.mEnd = 8 * s.mBuf.length
  nonneg : 0 ≤ s.mPos
  le : s.mPos ≤ s.mEnd

/-- What a request must meet. -/
def Clean (s : BitwiseInputStream) : BitRequest → Prop
  | .read bits =>
    Fits (s.mPos + bits) ∧ (bits = 0 → s.mPos < s.mEnd ∧ ofBits s.readOfByte = 0)
  | .readByteArray bits =>
    Fits (s.mPos + bits) ∨ Fits (s.mPos + 8 * (s.remaining.length / 8 : Nat) + 8)
  | .skip bits => Fits (s.mPos + bits)

/-- A request that the stream and the list of bits answer alike. -/
def Agrees (s : BitwiseInputStream) (request : BitRequest) : Prop :=
  ((s.serve request).1, (s.serve request).2.remaining) = request.serve s.remaining

section window

variable {s : BitwiseInputStream}

theorem create_valid {buf : List UInt8} (hbuf : Fits (8 * buf.length)) : (create buf).Valid := by
  have hbits : (buf.length * 8 : Int) = 8 * buf.length := Int.mul_comm _ _
  have hend : wrap (buf.length * 8 : Int) = 8 * buf.length := by
    rw [hbits, wrap_of_fits hbuf]
  constructor
  case fits => exact hbuf
  case mEnd =>
    rw [create, hend]
  case nonneg => exact Int.le_refl 0
  case le =>
    rw [create, hend]
    exact Int.mul_nonneg (by decide) (Int.natCast_nonneg _)

theorem Valid.length_remaining (h : s.Valid) : s.remaining.length = (s.mEnd - s.mPos).toNat := by
  have := h.mEnd
  have := h.nonneg
  have := h.le
  unfold remaining
  rw [List.length_drop, length_ofBytes]
  omega

theorem remaining_eq : s.remaining =
    (ofBytes (s.mBuf.drop (s.mPos.toNat / 8))).drop (s.mPos.toNat % 8) := by
  unfold remaining
  rw [← drop_ofBytes, List.drop_drop, Nat.div_add_mod]

theorem byteAt_of_getElem? {index : Int} {b : UInt8} (hindex : 0 ≤ index)
    (hb : s.mBuf[index.toNat]? = some b) : s.byteAt index = .ok b.toNat := by
  unfold byteAt
  rw [if_pos hindex, hb]
  rfl

theorem window_eq {high low offset k : Nat} (hlow : low < 256) (hk : 1 ≤ k ∧ k ≤ 8)
    (hoffset : offset < 8) :
    window high low (16 - offset - k) k =
      (high * 256 + low) / 2 ^ (16 - offset - k) % 2 ^ k := by
  have hmask : (0xFFFFFFFF >>> ((32 - (k : Int)).toNat % 32) : Nat) = 2 ^ k - 1 := by
    obtain ⟨hmin, hmax⟩ := hk
    interval_cases k <;> rfl
  have hjoin : (high <<< 8 ||| low) = high * 256 + low := by
    rw [← Nat.shiftLeft_add_eq_or_of_lt (by omega : low < 2 ^ 8), Nat.shiftLeft_eq]
  have hshift : ((16 : Int) - offset - k).toNat = 16 - offset - k := by omega
  unfold window
  rw [hmask, hjoin, hshift, Nat.and_two_pow_sub_one_eq_mod, Nat.shiftRight_eq_div_pow]

end window

section read

variable {s : BitwiseInputStream} {k : Nat}

/-- The stream behind `n` bits more. -/
def advance (s : BitwiseInputStream) (n : Nat) : BitwiseInputStream :=
  { s with mPos := s.mPos + n }

theorem Valid.advance {n : Nat} (h : s.Valid) (hn : n ≤ s.remaining.length) :
    (s.advance n).Valid ∧ (s.advance n).remaining = s.remaining.drop n := by
  have hnonneg := h.nonneg
  have hle := h.le
  rw [h.length_remaining] at hn
  constructor
  · refine ⟨h.fits, h.mEnd, ?_, ?_⟩
    · show 0 ≤ s.mPos + n
      omega
    · show s.mPos + n ≤ s.mEnd
      omega
  · unfold BitwiseInputStream.advance remaining
    rw [List.drop_drop]
    congr 1
    show (s.mPos + n).toNat = _
    omega

theorem advance_zero : s.advance 0 = s := by
  unfold advance
  rw [Int.natCast_zero, Int.add_zero]

theorem advance_advance (n m : Nat) : (s.advance n).advance m = s.advance (n + m) := by
  unfold advance
  rw [Int.natCast_add, ← Int.add_assoc]

theorem window_bits {high offset : Nat} {rest : List UInt8} {b : UInt8} (hb : b.toNat = high)
    (hk : k ≤ 8) (hoffset : offset < 8) (hlength : offset + k ≤ 8 * (rest.length + 1)) :
    ofBits (((ofBytes (b :: rest)).drop offset).take k) =
      (high * 256 + if offset + k ≤ 8 then 0 else (rest.head?.elim 0 UInt8.toNat)) /
        2 ^ (16 - offset - k) % 2 ^ k := by
  have hhigh : high < 2 ^ 8 := hb ▸ b.toNat_lt
  rw [ofBytes_cons, hb]
  split
  · next hinside =>
    rw [List.drop_append_of_le_length (by simp; omega),
      List.take_append_of_le_length (by simp; omega), ofBits_take_drop (by simpa using hinside),
      ofBits_toBits, length_toBits, Nat.mod_eq_of_lt hhigh]
    have hpow : 2 ^ (16 - offset - k) = 256 * 2 ^ (8 - offset - k) := by
      rw [show 16 - offset - k = 8 + (8 - offset - k) by omega, Nat.pow_add]
    rw [hpow, ← Nat.div_div_eq_div_mul]
    simp
  · next houtside =>
    cases rest with
    | nil => simp at hlength; omega
    | cons low rest =>
      rw [ofBytes_cons, ← List.append_assoc, List.drop_append_of_le_length (by simp; omega),
        List.take_append_of_le_length (by simp; omega), ofBits_take_drop (by simp; omega),
        ofBits_append, ofBits_toBits, ofBits_toBits, List.length_append, length_toBits,
        length_toBits, Nat.mod_eq_of_lt hhigh, Nat.mod_eq_of_lt low.toNat_lt]
      rfl

theorem read_of_le (h : s.Valid) (hk : 1 ≤ k ∧ k ≤ 8) (hle : s.mPos + k ≤ s.mEnd) :
    read k s = .ok (ofBits (s.remaining.take k)) (s.advance k) := by
  obtain ⟨pos, hpos⟩ := Int.eq_ofNat_of_zero_le h.nonneg
  have hend := h.mEnd
  have hfits := h.fits
  have hwrap : wrap (s.mPos + k) = s.mPos + k := wrap_of_fits (by unfold Fits at hfits ⊢; omega)
  have hindex : pos / 8 < s.mBuf.length := by omega
  have hdrop := List.drop_eq_getElem_cons hindex
  have hhigh : s.byteAt (s.mPos.tdiv 8) = .ok s.mBuf[pos / 8].toNat := by
    apply byteAt_of_getElem?
    · rw [hpos]
      exact Int.natCast_nonneg _
    · rw [hpos]
      exact List.getElem?_eq_getElem hindex
  have hoffset : s.mPos.tmod 8 = (pos % 8 : Nat) := by
    rw [hpos]
    rfl
  have hbits := @window_bits k _ (pos % 8) (s.mBuf.drop (pos / 8 + 1)) s.mBuf[pos / 8] rfl hk.2
    (Nat.mod_lt _ (by omega)) (by simp; omega)
  rw [← hdrop] at hbits
  have hremaining : s.remaining = (ofBytes (s.mBuf.drop (pos / 8))).drop (pos % 8) := by
    rw [remaining_eq, hpos]
    rfl
  have hlow : (if (16 - (pos % 8 : Nat) - k : Int) < 8 then s.byteAt (s.mPos.tdiv 8 + 1)
      else .ok 0) = .ok (if pos % 8 + k ≤ 8 then 0
        else (s.mBuf.drop (pos / 8 + 1)).head?.elim 0 UInt8.toNat) := by
    split
    · next hinside =>
      have hnext : pos / 8 + 1 < s.mBuf.length := by omega
      rw [if_neg (by omega), List.head?_drop, List.getElem?_eq_getElem hnext]
      apply byteAt_of_getElem?
      · rw [hpos]
        exact Int.natCast_nonneg _
      · rw [hpos]
        exact List.getElem?_eq_getElem hnext
    · next houtside =>
      rw [if_pos (by omega)]
  have hbyte : (if pos % 8 + k ≤ 8 then 0
      else (s.mBuf.drop (pos / 8 + 1)).head?.elim 0 UInt8.toNat) < 256 := by
    split
    · decide
    · cases (s.mBuf.drop (pos / 8 + 1)).head? with
      | none => decide
      | some b => exact b.toNat_lt
  unfold read
  simp only [hwrap, hhigh, hoffset, hremaining, hbits, hlow]
  rw [if_neg (by omega), window_eq hbyte hk (Nat.mod_lt _ (by decide))]
  rfl

theorem read_of_gt (h : s.Valid) (hk : 1 ≤ k ∧ k ≤ 8) (hgt : s.mEnd < s.mPos + k) :
    read k s = .error (if Fits (s.mPos + k) then .access else .indexOutOfBounds) s := by
  have hend := h.mEnd
  have hfits := h.fits
  have hle := h.le
  have hnonneg := h.nonneg
  by_cases hsum : Fits (s.mPos + k)
  · unfold read
    rw [if_pos hsum, wrap_of_fits hsum]
    exact if_pos (Or.inr (Or.inr hgt))
  · -- The position is the end of the largest buffer, and the sum wraps to the least number.
    have hpos : s.mPos = 0x7FFFFFF8 ∧ (k : Int) = 8 := by
      unfold Fits at hfits hsum
      omega
    have hindex : s.byteAt 0xFFFFFFF = .error .indexOutOfBounds := by
      have hlength : s.mBuf.length ≤ (0xFFFFFFF : Int).toNat := by
        unfold Fits at hfits
        omega
      unfold byteAt
      rw [List.getElem?_eq_none hlength]
      split <;> rfl
    have hdiv : s.mPos.tdiv 8 = 0xFFFFFFF := by
      rw [hpos.1]
      rfl
    have hwrap : wrap (s.mPos + k) = -0x80000000 := by
      rw [hpos.1, hpos.2]
      decide
    unfold read
    simp only [hwrap, hdiv, hindex]
    rw [if_neg (by omega), if_neg hsum]

theorem window_zero {high offset : Nat} (hhigh : high < 2 ^ 8) (hoffset : offset < 8) :
    window high 0 (16 - offset - (0 : Nat)) (0 : Nat) = high / 2 ^ (8 - offset) := by
  have hmask : (0xFFFFFFFF >>> ((32 - ((0 : Nat) : Int)).toNat % 32) : Nat) = 2 ^ 32 - 1 := rfl
  have hshift : ((16 : Int) - offset - (0 : Nat)).toNat = 8 + (8 - offset) := by omega
  have hlt : high / 2 ^ (8 - offset) < 2 ^ 32 :=
    Nat.lt_of_le_of_lt (Nat.div_le_self _ _) (Nat.lt_trans hhigh (by decide))
  unfold window
  rw [hmask, hshift, Nat.or_zero, Nat.and_two_pow_sub_one_eq_mod, Nat.shiftRight_add,
    Nat.shiftLeft_shiftRight, Nat.shiftRight_eq_div_pow, Nat.mod_eq_of_lt hlt]

/-- No bits give those of the byte that are read already; at the end there is no byte. -/
theorem read_zero_of_lt (h : s.Valid) (hlt : s.mPos < s.mEnd) :
    read (0 : Nat) s = .ok (ofBits s.readOfByte) s := by
  obtain ⟨pos, hpos⟩ := Int.eq_ofNat_of_zero_le h.nonneg
  have hend := h.mEnd
  have hfits := h.fits
  have hwrap : wrap (s.mPos + (0 : Nat)) = s.mPos := by
    rw [wrap_of_fits (by unfold Fits at hfits ⊢; omega)]
    exact Int.add_zero _
  have hindex : pos / 8 < s.mBuf.length := by omega
  have hhigh : s.byteAt (s.mPos.tdiv 8) = .ok s.mBuf[pos / 8].toNat := by
    apply byteAt_of_getElem?
    · rw [hpos]
      exact Int.natCast_nonneg _
    · rw [hpos]
      exact List.getElem?_eq_getElem hindex
  have hoffset : s.mPos.tmod 8 = (pos % 8 : Nat) := by
    rw [hpos]
    rfl
  have hbits : ofBits s.readOfByte = s.mBuf[pos / 8].toNat / 2 ^ (8 - pos % 8) := by
    have hlt : s.mBuf[pos / 8].toNat < 2 ^ 8 := s.mBuf[pos / 8].toNat_lt
    have hsmall : s.mBuf[pos / 8].toNat / 2 ^ (8 - pos % 8) < 2 ^ (pos % 8) := by
      apply Nat.div_lt_of_lt_mul
      rw [← Nat.pow_add, show 8 - pos % 8 + pos % 8 = 8 by omega]
      exact hlt
    unfold readOfByte
    rw [hpos, drop_ofBytes]
    show ofBits ((ofBytes (s.mBuf.drop (pos / 8))).take (pos % 8)) = _
    rw [List.drop_eq_getElem_cons hindex, ofBytes_cons,
      List.take_append_of_le_length (by simp; omega), ← List.drop_zero (l := toBits 8 _),
      ofBits_take_drop (by simp; omega), ofBits_toBits, length_toBits, Nat.mod_eq_of_lt hlt,
      Nat.sub_zero, Nat.mod_eq_of_lt hsmall]
  unfold read
  simp only [hwrap, hhigh, hoffset, hbits]
  rw [if_neg (by omega), if_neg (by omega)]
  simp only [window_zero s.mBuf[pos / 8].toNat_lt (Nat.mod_lt pos (by decide : 0 < 8))]

theorem read_zero_of_end (h : s.Valid) (hpos : s.mPos = s.mEnd) :
    read (0 : Nat) s = .error .indexOutOfBounds s := by
  have hend := h.mEnd
  have hfits := h.fits
  have hwrap : wrap (s.mPos + (0 : Nat)) = s.mPos := by
    rw [wrap_of_fits (by unfold Fits at hfits ⊢; omega)]
    exact Int.add_zero _
  have hdiv : s.mPos.tdiv 8 = s.mBuf.length := by
    rw [hpos, hend, Int.mul_tdiv_cancel_left _ (by decide)]
  have hindex : s.byteAt s.mBuf.length = .error .indexOutOfBounds := by
    unfold byteAt
    rw [List.getElem?_eq_none (by simp)]
    split <;> rfl
  unfold read
  simp only [hwrap, hdiv, hindex]
  rw [if_neg (by omega)]

end read

section readByteArray

variable {s : BitwiseInputStream}

theorem increment_eq (n : Nat) :
    (if (n : Int) < 8 then (n : Int) else 8) = (if n < 8 then n else 8 : Nat) := by
  split
  · rw [if_pos (by omega)]
  · rw [if_neg (by omega)]
    rfl

theorem readBytes_of_le {m n : Nat} (h : s.Valid) (hm : m = (n + 7) / 8)
    (hn : n ≤ s.remaining.length) :
    readBytes m n s = .ok (pack m (s.remaining.take n)) (s.advance n) := by
  induction m generalizing n s with
  | zero =>
    have hzero : n = 0 := by omega
    rw [hzero, advance_zero]
    rfl
  | succ m ih =>
    have hle := h.le
    have hend := h.length_remaining
    rcases Nat.lt_or_ge n 8 with hlast | hmore
    · have hm : m = 0 := by omega
      have hfirst := @read_of_le s n h (by omega) (by omega)
      have htake : (s.remaining.take n).take 8 = s.remaining.take n := by
        rw [List.take_take, Nat.min_eq_right (by omega)]
      have hshift : ((8 : Int) - n).toNat = 8 - n := by omega
      simp only [readBytes, increment_eq, if_pos hlast, bind, EStateM.bind, hfirst, hm]
      rw [pack, htake, List.length_take, Nat.min_eq_left hn, hshift, Nat.shiftLeft_eq]
      rfl
    · have hincrement : (if n < 8 then n else 8) = 8 := if_neg (by omega)
      have hfirst := @read_of_le s 8 h (by decide) (by omega)
      have hadvanced := h.advance (by omega : 8 ≤ s.remaining.length)
      have hrest := @ih (s.advance 8) (n - 8) hadvanced.1 (by omega)
        (by rw [hadvanced.2, List.length_drop]; omega)
      have hbits : ((n : Int) - 8) = (n - 8 : Nat) := by omega
      have hbyte : ((s.remaining.take n).take 8).length = 8 := by
        simp only [List.length_take]
        omega
      rw [hadvanced.2, advance_advance, Nat.add_sub_cancel' (by omega : 8 ≤ n)] at hrest
      simp only [readBytes, increment_eq, hincrement, bind, EStateM.bind, hfirst, hbits, hrest]
      rw [pack, hbyte, List.take_take, Nat.min_eq_left (by omega : 8 ≤ n), List.drop_take,
        Nat.sub_self, Nat.pow_zero, Nat.mul_one]
      rfl

theorem readBytes_of_gt {m n : Nat} (h : s.Valid) (hm : m = (n + 7) / 8)
    (hn : s.remaining.length < n) :
    readBytes m n s = .error
      (if Fits (s.mPos + n) ∨ Fits (s.mPos + 8 * (s.remaining.length / 8 : Nat) + 8) then .access
        else .indexOutOfBounds) (s.advance (8 * (s.remaining.length / 8))) := by
  induction m generalizing n s with
  | zero => omega
  | succ m ih =>
    have hend := h.length_remaining
    have hle := h.le
    have hnonneg := h.nonneg
    by_cases hout : s.remaining.length < (if n < 8 then n else 8)
    · have hfirst := @read_of_gt s (if n < 8 then n else 8) h (by split <;> omega)
        (by split at hout <;> split <;> omega)
      have hzero : s.remaining.length / 8 = 0 := by
        split at hout <;> omega
      have hsum : Fits (s.mPos + (if n < 8 then n else 8 : Nat)) ↔
          Fits (s.mPos + n) ∨ Fits (s.mPos + 8 * (0 : Nat) + 8) := by
        have hnonneg := h.nonneg
        unfold Fits
        split <;> omega
      simp only [readBytes, increment_eq, bind, EStateM.bind, hfirst, hzero, hsum]
      rw [Nat.mul_zero, advance_zero]
    · have hbig : 8 ≤ n := by
        split at hout <;> omega
      have hfull : 8 ≤ s.remaining.length := by
        rw [if_neg (by omega)] at hout
        omega
      have hfirst := @read_of_le s 8 h (by decide) (by omega)
      have hadvanced := h.advance hfull
      have hlength : (s.advance 8).remaining.length = s.remaining.length - 8 := by
        rw [hadvanced.2, List.length_drop]
      have hrest := @ih (s.advance 8) (n - 8) hadvanced.1 (by omega) (by omega)
      have hbits : ((n : Int) - 8) = (n - 8 : Nat) := by omega
      have hincrement : (if n < 8 then n else 8) = 8 := if_neg (by omega)
      have hbytes : 8 + 8 * ((s.remaining.length - 8) / 8) = 8 * (s.remaining.length / 8) := by
        omega
      have hsum : (s.advance 8).mPos + (n - 8 : Nat) = s.mPos + n ∧
          (s.advance 8).mPos + 8 * ((s.remaining.length - 8) / 8 : Nat) + 8 =
            s.mPos + 8 * (s.remaining.length / 8 : Nat) + 8 := by
        show s.mPos + 8 + _ = _ ∧ s.mPos + 8 + _ + _ = _
        omega
      rw [hlength, hsum.1, hsum.2, advance_advance, hbytes] at hrest
      simp only [readBytes, increment_eq, hincrement, bind, EStateM.bind, hfirst, hbits, hrest]

theorem readByteArray_eq (n : Nat) : readByteArray n = readBytes ((n + 7) / 8) n := by
  have hbytes : (n : Int).tdiv 8 + (if 0 < (n : Int).tmod 8 then 1 else 0) = ((n + 7) / 8 : Nat) := by
    rw [Int.tdiv_eq_ediv_of_nonneg (by omega), Int.tmod_eq_emod_of_nonneg (by omega)]
    split <;> omega
  unfold readByteArray
  rw [hbytes]
  exact if_neg (by omega)

end readByteArray

section agrees

variable {s : BitwiseInputStream}

theorem agrees_readByteArray_iff (h : s.Valid) (n : Nat) :
    s.Agrees (.readByteArray n) ↔ s.Clean (.readByteArray n) := by
  have hend := h.length_remaining
  have hnonneg := h.nonneg
  have hle := h.le
  have hfits := h.fits
  have hlength := h.mEnd
  unfold Agrees serve BitRequest.serve
  simp only [readByteArray_eq]
  by_cases hn : n ≤ s.remaining.length
  · rw [readBytes_of_le h rfl hn, if_pos hn]
    apply iff_of_true
    · rw [reply, (h.advance hn).2]
    · left
      unfold Fits at hfits ⊢
      omega
  · have hdrop := (h.advance (Nat.mul_div_le s.remaining.length 8)).2
    rw [readBytes_of_gt h rfl (by omega), if_neg hn, reply, hdrop]
    unfold Clean
    split
    · next hclean => exact iff_of_true rfl hclean
    · next hclean => exact iff_of_false (by simp) hclean

theorem agrees_skip_iff (h : s.Valid) {n : Nat} (hint : n ≤ 0x7FFFFFFF) :
    s.Agrees (.skip n) ↔ s.Clean (.skip n) := by
  have hend := h.length_remaining
  have hnonneg := h.nonneg
  have hle := h.le
  have hfits := h.fits
  have hlength := h.mEnd
  unfold Agrees serve BitRequest.serve Clean skip
  by_cases hsum : Fits (s.mPos + n)
  · apply iff_of_true _ hsum
    simp only [wrap_of_fits hsum]
    split
    · next hout =>
      rw [if_neg (by omega)]
      rfl
    · next hin =>
      have hn : n ≤ s.remaining.length := by omega
      rw [if_pos hn]
      exact congrArg _ (h.advance hn).2
  · -- The sum is negative, so that the skip behind the end succeeds.
    have hwrap : wrap (s.mPos + n) = s.mPos + n - 0x100000000 := by
      unfold Fits at hsum hfits
      unfold wrap
      rw [Int.bmod_eq_emod]
      split <;> omega
    apply iff_of_false _ hsum
    unfold Fits at hsum hfits
    simp only [hwrap]
    rw [if_neg (by omega), if_neg (by omega), reply]
    simp

theorem agrees_read_iff (h : s.Valid) {k : Nat} (hk : k ≤ 8) :
    s.Agrees (.read k) ↔ s.Clean (.read k) := by
  have hend := h.length_remaining
  have hnonneg := h.nonneg
  have hle := h.le
  have hfits := h.fits
  have hlength := h.mEnd
  unfold Agrees serve BitRequest.serve Clean
  rcases Nat.eq_zero_or_pos k with rfl | hpos
  · have hsum : Fits (s.mPos + (0 : Nat)) := by
      unfold Fits at hfits ⊢
      omega
    simp only [hsum, true_and, forall_true_left, Nat.zero_le, if_true, List.take_zero, List.drop_zero]
    by_cases hlt : s.mPos < s.mEnd
    · rw [read_zero_of_lt h hlt, reply]
      simp [hlt, ofBits]
    · rw [read_zero_of_end h (by omega), reply]
      simp [hlt]
  · have hzero : ¬k = 0 := by omega
    simp only [hzero, false_implies, and_true]
    by_cases hin : k ≤ s.remaining.length
    · rw [read_of_le h ⟨hpos, hk⟩ (by omega), if_pos hin]
      apply iff_of_true
      · rw [reply, (h.advance hin).2]
      · unfold Fits at hfits ⊢
        omega
    · rw [read_of_gt h ⟨hpos, hk⟩ (by omega), if_neg hin, reply]
      split
      · next hclean => exact iff_of_true rfl hclean
      · next hclean => exact iff_of_false (by simp) hclean

/-- The arguments that the documentation and the type of a number of bits allow. -/
def Allowed : BitRequest → Prop
  | .read bits => bits ≤ 8
  | .readByteArray bits => bits ≤ 0x7FFFFFFF
  | .skip bits => bits ≤ 0x7FFFFFFF

theorem agrees_iff (h : s.Valid) {request : BitRequest} (hallowed : Allowed request) :
    s.Agrees request ↔ s.Clean request := by
  cases request with
  | read bits => exact agrees_read_iff h hallowed
  | readByteArray bits => exact agrees_readByteArray_iff h bits
  | skip bits => exact agrees_skip_iff h hallowed

theorem serve_eq_advance (h : s.Valid) {request : BitRequest} (hallowed : Allowed request)
    (hclean : s.Clean request) :
    ∃ n, n ≤ s.remaining.length ∧ (s.serve request).2 = s.advance n := by
  have hend := h.length_remaining
  have hle := h.le
  have hstay : ∃ n, n ≤ s.remaining.length ∧ s = s.advance n :=
    ⟨0, Nat.zero_le _, advance_zero.symm⟩
  cases request with
  | read bits =>
    unfold serve
    rcases Nat.eq_zero_or_pos bits with rfl | hpos
    · simp only [read_zero_of_lt h (hclean.2 rfl).1, reply]
      exact hstay
    · by_cases hin : bits ≤ s.remaining.length
      · simp only [read_of_le h ⟨hpos, hallowed⟩ (by omega : s.mPos + bits ≤ s.mEnd), reply]
        exact ⟨bits, hin, rfl⟩
      · simp only [read_of_gt h ⟨hpos, hallowed⟩ (by omega : s.mEnd < s.mPos + bits), reply]
        exact hstay
  | readByteArray bits =>
    unfold serve
    by_cases hin : bits ≤ s.remaining.length
    · simp only [readByteArray_eq, readBytes_of_le h rfl hin, reply]
      exact ⟨bits, hin, rfl⟩
    · simp only [readByteArray_eq, readBytes_of_gt h rfl (by omega : s.remaining.length < bits),
        reply]
      exact ⟨_, Nat.mul_div_le _ 8, rfl⟩
  | skip bits =>
    unfold serve skip
    simp only [wrap_of_fits hclean]
    split
    · exact hstay
    · exact ⟨bits, by omega, rfl⟩

/-- Every request of a run meets its condition. -/
def CleanRun (s : BitwiseInputStream) : List BitRequest → Prop
  | [] => True
  | request :: rest => s.Clean request ∧ (s.serve request).2.CleanRun rest

instance (s : BitwiseInputStream) (request : BitRequest) : Decidable (s.Clean request) :=
  match request with
  | .read _ => inferInstanceAs (Decidable (_ ∧ _))
  | .readByteArray _ => inferInstanceAs (Decidable (_ ∨ _))
  | .skip _ => inferInstanceAs (Decidable (Fits _))

instance decidableCleanRun (s : BitwiseInputStream) (requests : List BitRequest) :
    Decidable (s.CleanRun requests) :=
  match requests with
  | [] => isTrue trivial
  | request :: rest =>
    have := decidableCleanRun (s.serve request).2 rest
    inferInstanceAs (Decidable (_ ∧ _))

theorem serveAll_of_valid {requests : List BitRequest} (h : s.Valid)
    (hallowed : ∀ request ∈ requests, Allowed request) (hclean : s.CleanRun requests) :
    ((s.serveAll requests).1, (s.serveAll requests).2.remaining) =
      BitRequest.serveAll s.remaining requests := by
  induction requests generalizing s with
  | nil => rfl
  | cons request rest ih =>
    have hfirst := (agrees_iff h (hallowed request List.mem_cons_self)).mpr hclean.1
    obtain ⟨n, hn, hstate⟩ :=
      serve_eq_advance h (hallowed request List.mem_cons_self) hclean.1
    have hvalid : (s.serve request).2.Valid := hstate ▸ (h.advance hn).1
    have hrest := ih hvalid (fun other hother => hallowed other (List.mem_cons_of_mem _ hother))
      hclean.2
    unfold serveAll BitRequest.serveAll
    rw [← hfirst]
    simp only [← hrest]

/-- In a buffer whose number of bits fits, a run whose requests all meet their condition is one of
the reader of the list of bits. -/
theorem serveAll_eq (buf : List UInt8) (requests : List BitRequest) (hbuf : Fits (8 * buf.length))
    (hallowed : ∀ request ∈ requests, Allowed request) (hclean : (create buf).CleanRun requests) :
    (((create buf).serveAll requests).1, ((create buf).serveAll requests).2.remaining) =
      BitRequest.serveAll (ofBytes buf) requests :=
  serveAll_of_valid (create_valid hbuf) hallowed hclean

/-- "10100101 00111100" in parts, until fewer bits remain than are asked for. -/
theorem serveAll_two_bytes :
    (((create [0xA5, 0x3C]).serveAll [.read 3, .readByteArray 9, .skip 2, .read 8]).1,
        ((create [0xA5, 0x3C]).serveAll [.read 3, .readByteArray 9, .skip 2, .read 8]).2.remaining) =
      BitRequest.serveAll (ofBytes [0xA5, 0x3C]) [.read 3, .readByteArray 9, .skip 2, .read 8] :=
  serveAll_eq _ _ (by decide) (by simp [Allowed]) (by decide +kernel)

/-- Reading no bits behind the first bit of "10000000" gives that bit again. -/
theorem not_serveAll_eq : ¬∀ (buf : List UInt8) (requests : List BitRequest),
    (∀ request ∈ requests, Allowed request) →
    (((create buf).serveAll requests).1, ((create buf).serveAll requests).2.remaining) =
      BitRequest.serveAll (ofBytes buf) requests := by
  intro h
  have hreplies := congrArg Prod.fst (h [0x80] [.read 1, .read 0] (by simp [Allowed]))
  exact absurd hreplies (by decide +kernel)

end agrees

end BitwiseInputStream

end ImsStack.Sms
