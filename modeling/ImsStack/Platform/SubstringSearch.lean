import ImsStack.Library.BoundedInt
import ImsStack.Library.RollingHash
import ImsStack.Platform.AString
import Mathlib.Data.BitVec

/-!
`AString::GetIndexOf` and `AString::GetLastIndexOf`, which compare strings where the hashes of the
string that is searched and of a window agree.
-/

namespace ImsStack.Platform.AString

open Library.BoundedInt Library.RollingHash

def npos : Int := -1

/-- The characters of a string and the NUL behind them; `none` is an access outside. -/
def charAt (s : Chars) (i : Int) : Option Char := if 0 ≤ i then (s ++ [nul])[i.toNat]? else none

def charsAt (s : Chars) (i : Int) (n : Nat) : Option Chars :=
  if 0 ≤ i ∧ i + n ≤ s.length + 1 then some (((s ++ [nul]).drop i.toNat).take n) else none

/-- `IMS_StrNCmp` gives zero. -/
def strNCmp : Nat → Chars → Chars → Bool
  | 0, _, _ => true
  | n + 1, a, b =>
    a.headD nul == b.headD nul && (a.headD nul == nul || strNCmp n a.tail b.tail)

/-- The loop of `GetIndexOf` over `n` characters from a position on. -/
def indexFrom (s : Chars) (c : Char) : Nat → Nat → Int
  | 0, _ => npos
  | n + 1, p => if charAt s p = some c then p else indexFrom s c n (p + 1)

def getIndexOfChar (s : Chars) (c : Char) (nOffset : Int) : Int :=
  let nOffset := if nOffset < 0 then (if nOffset + s.length < 0 then 0 else nOffset + s.length)
    else nOffset
  if nOffset < s.length then indexFrom s c (s.length - nOffset).toNat nOffset.toNat else npos

/-- The loop of `GetLastIndexOf` over the characters in front of `n`. -/
def lastIndexBefore (s : Chars) (c : Char) : Nat → Int
  | 0 => npos
  | n + 1 => if charAt s n = some c then n else lastIndexBefore s c n

def getLastIndexOfChar (s : Chars) (c : Char) (nOffset : Int) : Int :=
  let nOffset := if nOffset < 0 then nOffset + s.length
    else if nOffset > s.length then s.length - 1 else nOffset
  if nOffset ≥ 0 then lastIndexBefore s c (nOffset + 1).toNat else npos

/-- `OL_MINUS_1`, an unsigned number. -/
def olMinus1 (other : Chars) : Nat := if other.length = 0 then 0xFFFFFFFF else other.length - 1

section search

-- The value that a character is converted to, with its sign or without.
variable (ord : Char → BitVec 32)

def hash (chars : Chars) : BitVec 32 := chars.foldl (fun h c => (h <<< 1) + ord c) 0

/-- The window is moved: the character that leaves it is subtracted, unless it has been shifted
out. -/
def slide (other : Chars) (h : BitVec 32) (c : Char) : BitVec 32 :=
  (if olMinus1 other < 32 then h - (ord c <<< olMinus1 other) else h) <<< 1

/-- The loop over `n` positions from `pHayStack` on. -/
def forwardLoop (s other : Chars) : Nat → Int → BitVec 32 → Option Int
  | 0, _, _ => some npos
  | n + 1, pHayStack, nHashHayStack => do
    let last ← charAt s (pHayStack + olMinus1 other)
    let first ← charAt s pHayStack
    let needle ← charAt other 0
    let nHashHayStack := nHashHayStack + ord last
    if nHashHayStack = hash ord other ∧ needle = first ∧
        strNCmp other.length other (s.drop pHayStack.toNat) then
      return pHayStack
    else forwardLoop s other n (pHayStack + 1) (slide ord other nHashHayStack first)

/-- `none` is a sum that overflows or an access outside a string. -/
def getIndexOf (s other : Chars) (nOffset : Int) : Option Int :=
  if nOffset > s.length then some npos
  else do
    let nEnd ← checked (other.length + nOffset)
    if nEnd > s.length then return npos
    else if other.length = 0 then return npos
    else if other.length = 1 then
      let c ← charAt other 0
      return getIndexOfChar s c nOffset
    else
      let window ← charsAt s nOffset other.length
      let last ← charAt s (nOffset + olMinus1 other)
      forwardLoop ord s other (s.length - other.length + 1 - nOffset).toNat nOffset
        (hash ord window - ord last)

/-- The loop over the positions in front of `n`, from the last one on. -/
def backwardLoop (s other : Chars) : Nat → BitVec 32 → Option Int
  | 0, _ => some npos
  | pHayStack + 1, nHashHayStack => do
    let first ← charAt s pHayStack
    let nHashHayStack := nHashHayStack + ord first
    if nHashHayStack = hash ord other.reverse ∧
        strNCmp other.length other (s.drop pHayStack) then
      return pHayStack
    else
      let last ← charAt s (pHayStack - 1 + other.length)
      backwardLoop s other pHayStack (slide ord other nHashHayStack last)

/-- `GetLastIndexOf` behind its checks of the offset. -/
def searchBackward (s other : Chars) (nOffset : Int) : Option Int :=
  if other.length = 1 then do
    let c ← charAt other 0
    return getLastIndexOfChar s c nOffset
  else do
    let window ← charsAt s nOffset other.length
    let first ← charAt s nOffset
    backwardLoop ord s other (nOffset + 1).toNat (hash ord window.reverse - ord first)

def getLastIndexOf (s other : Chars) (nOffset : Int) : Option Int :=
  let nDelta : Int := s.length - other.length
  let nOffset := if nOffset < 0 then nDelta else nOffset
  if nOffset < 0 ∨ nOffset > s.length then some npos
  else searchBackward ord s other (if nOffset > nDelta then nDelta else nOffset)

end search

/-- `other` occurs in `s` at a position. -/
def OccursAt (other s : Chars) (p : Nat) : Prop := p ≤ s.length ∧ other <+: s.drop p

instance (other s : Chars) (p : Nat) : Decidable (OccursAt other s p) :=
  inferInstanceAs (Decidable (_ ∧ _))

section occurs

variable {s other : Chars} {p : Nat}

theorem OccursAt.le (h : OccursAt other s p) : p + other.length ≤ s.length := by
  have hlength := h.2.length_le
  rw [List.length_drop] at hlength
  have := h.1
  omega

theorem occursAt_iff (hp : p + other.length ≤ s.length) :
    OccursAt other s p ↔ (s.drop p).take other.length = other := by
  constructor
  · intro h
    exact (List.prefix_iff_eq_take.mp h.2).symm
  · intro h
    exact ⟨by omega, List.prefix_iff_eq_take.mpr h.symm⟩

theorem strNCmp_eq (hs : nul ∉ s) (hother : nul ∉ other) :
    strNCmp other.length other s = decide (other <+: s) := by
  induction other generalizing s with
  | nil => simp [strNCmp]
  | cons c rest ih =>
    have hc : c ≠ nul := fun h => hother (h ▸ List.mem_cons_self)
    have hrest : nul ∉ rest := fun h => hother (List.mem_cons_of_mem _ h)
    cases s with
    | nil => simp [strNCmp, hc]
    | cons d others =>
      have hothers : nul ∉ others := fun h => hs (List.mem_cons_of_mem _ h)
      simp only [List.length_cons, strNCmp, List.headD_cons, List.tail_cons, ih hothers hrest]
      rw [beq_eq_false_iff_ne.mpr hc, Bool.false_or]
      simp [List.cons_prefix_cons, Bool.beq_eq_decide_eq]

theorem charAt_of_lt (hp : p < s.length) : charAt s p = some s[p] := by
  unfold charAt
  rw [if_pos (Int.natCast_nonneg p), Int.toNat_natCast, List.getElem?_append_left hp,
    List.getElem?_eq_getElem hp]

end occurs

section hash

variable (ord : Char → BitVec 32) {other : Chars}

theorem hash_eq (chars : Chars) : hash ord chars = polyHash 2 ord chars := by
  unfold hash polyHash
  congr 1
  funext h c
  rw [BitVec.shiftLeft_eq_mul_twoPow]
  rfl

theorem shiftLeft_eq_mul_pow (x : BitVec 32) (n : Nat) : x <<< n = x * 2 ^ n := by
  induction n with
  | zero => rw [BitVec.shiftLeft_zero, pow_zero, mul_one]
  | succ n ih =>
    have hone (y : BitVec 32) : y <<< 1 = y * 2 := BitVec.shiftLeft_eq_mul_twoPow y 1
    rw [BitVec.shiftLeft_add, ih, hone, pow_succ, mul_assoc]

theorem shiftLeft_eq_zero_of_le {x : BitVec 32} {n : Nat} (hn : 32 ≤ n) : x <<< n = 0 :=
  BitVec.shiftLeft_eq_zero hn

theorem slide_eq {c : Char} {window : Chars} (d : Char)
    (hlength : window.length + 1 = other.length) :
    slide ord other (hash ord (c :: window)) c = hash ord (window ++ [d]) - ord d := by
  have holMinus1 : olMinus1 other = window.length := by
    unfold olMinus1
    rw [if_neg (by omega)]
    omega
  have hfirst : hash ord (c :: window) = (ord c <<< window.length) + hash ord window := by
    rw [hash_eq, hash_eq, polyHash_cons, shiftLeft_eq_mul_pow]
  have hremoved : (if olMinus1 other < 32 then hash ord (c :: window) - (ord c <<< olMinus1 other)
      else hash ord (c :: window)) = hash ord window := by
    rw [holMinus1, hfirst]
    split
    · exact add_sub_cancel_left _ _
    · next hout => rw [shiftLeft_eq_zero_of_le (by omega), zero_add]
  have hlast : hash ord (window ++ [d]) = (hash ord window <<< 1) + ord d := by
    unfold hash
    rw [List.foldl_append]
    rfl
  unfold slide
  rw [hremoved, hlast, add_sub_cancel_right]

end hash

section window

variable {s : Chars} {p m : Nat}

theorem window_cons (hp : p + (m + 1) ≤ s.length) :
    (s.drop p).take (m + 1) = s[p] :: (s.drop (p + 1)).take m := by
  rw [List.drop_eq_getElem_cons (by omega : p < s.length), List.take_succ_cons]

theorem window_concat (hp : p + (m + 1) ≤ s.length) :
    (s.drop p).take (m + 1) = (s.drop p).take m ++ [s[p + m]] := by
  rw [List.take_succ_eq_append_getElem (by rw [List.length_drop]; omega), List.getElem_drop]

theorem length_window (hp : p + m ≤ s.length) : ((s.drop p).take m).length = m := by
  rw [List.length_take, List.length_drop]
  omega

end window

section loops

variable (ord : Char → BitVec 32) {s other : Chars} {m : Nat}

/-- A window with the hash and the first character of the string is compared with it. -/
theorem matches_iff (hs : nul ∉ s) (hother : nul ∉ other) {p : Nat} {c : Char} {rest : Chars}
    (hcons : other = c :: rest) (hp : p + other.length ≤ s.length) :
    (hash ord ((s.drop p).take other.length) = hash ord other ∧
        c = ((s.drop p).take other.length).headD nul ∧
        strNCmp other.length other (s.drop p) = true) ↔ OccursAt other s p := by
  have hdrop : nul ∉ s.drop p := fun h => hs (List.mem_of_mem_drop h)
  rw [strNCmp_eq hdrop hother, decide_eq_true_eq]
  constructor
  · rintro ⟨-, -, hprefix⟩
    exact ⟨by omega, hprefix⟩
  · intro h
    rw [(occursAt_iff hp).mp h]
    refine ⟨rfl, ?_, h.2⟩
    rw [hcons, List.headD_cons]

/-- The hash is that of the window without its last character, which the loop adds. -/
theorem exists_forwardLoop (hs : nul ∉ s) (hother : nul ∉ other) (hlength : other.length = m + 1)
    {n p : Nat} (hn : n + p + m = s.length) {h : BitVec 32}
    (hhash : ∀ hp : p + m < s.length, h = hash ord ((s.drop p).take (m + 1)) - ord s[p + m]) :
    ∃ r, forwardLoop ord s other n p h = some r ∧ IsFirstFrom (OccursAt other s) p r := by
  induction n generalizing p h with
  | zero =>
    refine ⟨npos, rfl, isFirstFrom_none fun q hq hoccurs => ?_⟩
    have := hoccurs.le
    omega
  | succ n ih =>
    obtain ⟨c, rest, hcons⟩ := List.exists_cons_of_ne_nil (l := other)
      (by rw [← List.length_pos_iff]; omega)
    have hp : p + m < s.length := by omega
    have hlast : charAt s (p + olMinus1 other : Int) = some s[p + m] := by
      have holMinus1 : olMinus1 other = m := by
        unfold olMinus1
        rw [if_neg (by omega)]
        omega
      rw [holMinus1, ← Int.natCast_add, charAt_of_lt hp]
    have hfirst : charAt s (p : Int) = some s[p] := charAt_of_lt (by omega)
    have hneedle : charAt other (0 : Nat) = some c := by
      rw [charAt_of_lt (by omega)]
      simp [hcons]
    have hwindow : h + ord s[p + m] = hash ord ((s.drop p).take (m + 1)) := by
      rw [hhash hp, sub_add_cancel]
    have hhead : ((s.drop p).take other.length).headD nul = s[p] := by
      rw [hlength, window_cons (by omega), List.headD_cons]
    have hmatches := matches_iff ord hs hother hcons (by omega : p + other.length ≤ s.length)
    rw [hhead, hlength] at hmatches
    unfold forwardLoop
    simp only [hlast, hfirst, Option.bind_eq_bind, Option.bind_some, Int.toNat_natCast, hwindow]
    rw [show charAt other 0 = some c from hneedle, Option.bind_some, hlength]
    by_cases hoccurs : OccursAt other s p
    · rw [if_pos (hmatches.mpr hoccurs)]
      exact ⟨p, rfl, isFirstFrom_self hoccurs⟩
    · rw [if_neg (hmatches.not.mpr hoccurs)]
      have hmoved (hnext : p + 1 + m < s.length) :
          slide ord other (hash ord ((s.drop p).take (m + 1))) s[p] =
            hash ord ((s.drop (p + 1)).take (m + 1)) - ord s[p + 1 + m] := by
        rw [@window_cons s p m (by omega), @window_concat s (p + 1) m (by omega)]
        apply slide_eq
        rw [length_window (by omega), hlength]
      obtain ⟨r, hr, hisFirst⟩ := @ih (p + 1) (by omega)
        (slide ord other (hash ord ((s.drop p).take (m + 1))) s[p]) hmoved
      exact ⟨r, hr, hisFirst.of_succ hoccurs⟩

theorem backwardLoop_succ (hs : nul ∉ s) (hother : nul ∉ other) (hlength : other.length = m + 1)
    {n : Nat} (hn : n + m < s.length) :
    backwardLoop ord s other (n + 1) (hash ord ((s.drop n).take (m + 1)).reverse - ord s[n]) =
      if OccursAt other s n then some (n : Int)
      else (charAt s (n - 1 + other.length)).bind fun last =>
        backwardLoop ord s other n
          (slide ord other (hash ord ((s.drop n).take (m + 1)).reverse) last) := by
  have hfirst : charAt s (n : Int) = some s[n] := charAt_of_lt (by omega)
  have hmatches : (hash ord ((s.drop n).take (m + 1)).reverse = hash ord other.reverse ∧
      strNCmp other.length other (s.drop n) = true) ↔ OccursAt other s n := by
    have hdrop : nul ∉ s.drop n := fun h => hs (List.mem_of_mem_drop h)
    rw [strNCmp_eq hdrop hother, decide_eq_true_eq]
    constructor
    · rintro ⟨-, hprefix⟩
      exact ⟨by omega, hprefix⟩
    · intro h
      rw [← hlength, (occursAt_iff (by omega)).mp h]
      exact ⟨rfl, h.2⟩
  rw [backwardLoop]
  simp only [hfirst, Option.bind_eq_bind, Option.bind_some, sub_add_cancel, hmatches]
  rfl

theorem exists_backwardLoop (hs : nul ∉ s) (hother : nul ∉ other) (hlength : other.length = m + 1)
    {n : Nat} (hn : n + m < s.length) :
    ∃ r, backwardLoop ord s other (n + 1)
        (hash ord ((s.drop n).take (m + 1)).reverse - ord s[n]) = some r ∧
      IsLastUpTo (OccursAt other s) n r := by
  induction n with
  | zero =>
    have hlast : charAt s ((0 : Nat) - 1 + other.length : Int) = some s[m] := by
      rw [hlength, show ((0 : Nat) - 1 + (m + 1 : Nat) : Int) = m by omega, charAt_of_lt (by omega)]
    rw [backwardLoop_succ ord hs hother hlength hn, hlast]
    split
    · next hoccurs => exact ⟨_, rfl, isLastUpTo_self hoccurs⟩
    · next hoccurs => exact ⟨npos, rfl, isLastUpTo_zero hoccurs⟩
  | succ n ih =>
    have hlast : charAt s ((n + 1 : Nat) - 1 + other.length : Int) = some s[n + 1 + m] := by
      rw [hlength, show ((n + 1 : Nat) - 1 + (m + 1 : Nat) : Int) = (n + 1 + m : Nat) by omega,
        charAt_of_lt (by omega)]
    have hmoved : slide ord other (hash ord ((s.drop (n + 1)).take (m + 1)).reverse)
        s[n + 1 + m] = hash ord ((s.drop n).take (m + 1)).reverse - ord s[n] := by
      rw [@window_concat s (n + 1) m (by omega), @window_cons s n m (by omega),
        List.reverse_concat, List.reverse_cons]
      apply slide_eq
      rw [List.length_reverse, length_window (by omega), hlength]
    rw [backwardLoop_succ ord hs hother hlength hn, hlast, Option.bind_some, hmoved]
    split
    · next hoccurs => exact ⟨_, rfl, isLastUpTo_self hoccurs⟩
    · next hoccurs =>
      obtain ⟨r, hr, hisLast⟩ := ih (by omega)
      exact ⟨r, hr, hisLast.succ hoccurs⟩

end loops

section characters

variable {s : Chars} {c : Char}

theorem occursAt_singleton {p : Nat} (hp : p < s.length) :
    OccursAt [c] s p ↔ charAt s p = some c := by
  have hend : p + [c].length ≤ s.length := hp
  rw [occursAt_iff hend, charAt_of_lt hp, List.drop_eq_getElem_cons hp, List.length_singleton,
    List.take_succ_cons, List.take_zero, List.singleton_inj, Option.some.injEq]

theorem isFirstFrom_indexFrom {n p : Nat} (hn : n + p = s.length) :
    IsFirstFrom (OccursAt [c] s) p (indexFrom s c n p) := by
  induction n generalizing p with
  | zero =>
    refine isFirstFrom_none fun q hq hoccurs => ?_
    have hle := hoccurs.le
    simp only [List.length_singleton] at hle
    omega
  | succ n ih =>
    unfold indexFrom
    have hoccurs := occursAt_singleton (c := c) (by omega : p < s.length)
    split
    · next h => exact isFirstFrom_self (hoccurs.mpr h)
    · next h => exact (ih (by omega)).of_succ (hoccurs.not.mpr h)

theorem isLastUpTo_lastIndexBefore {n : Nat} (hn : n < s.length) :
    IsLastUpTo (OccursAt [c] s) n (lastIndexBefore s c (n + 1)) := by
  induction n with
  | zero =>
    unfold lastIndexBefore
    have hoccurs := occursAt_singleton (c := c) hn
    split
    · next h => exact isLastUpTo_self (hoccurs.mpr h)
    · next h => exact isLastUpTo_zero (hoccurs.not.mpr h)
  | succ n ih =>
    unfold lastIndexBefore
    have hoccurs := occursAt_singleton (c := c) hn
    split
    · next h => exact isLastUpTo_self (hoccurs.mpr h)
    · next h => exact (ih (by omega)).succ (hoccurs.not.mpr h)

theorem getIndexOfChar_of_lt {offset : Nat} (hoffset : offset < s.length) :
    getIndexOfChar s c offset = indexFrom s c (s.length - offset) offset := by
  have hnonneg : ¬(offset : Int) < 0 := by omega
  have hcount : ((s.length : Int) - offset).toNat = s.length - offset := by omega
  unfold getIndexOfChar
  simp only [if_neg hnonneg, hcount, Int.toNat_natCast]
  exact if_pos (by omega)

theorem getLastIndexOfChar_of_lt {offset : Nat} (hoffset : offset < s.length) :
    getLastIndexOfChar s c offset = lastIndexBefore s c (offset + 1) := by
  have hnonneg : ¬(offset : Int) < 0 := by omega
  have hinside : ¬(offset : Int) > s.length := by omega
  unfold getLastIndexOfChar
  simp only [if_neg hnonneg, if_neg hinside]
  exact if_pos (by omega)

end characters

section search

variable (ord : Char → BitVec 32) {s other : Chars}

theorem charsAt_of_le {p n : Nat} (h : p + n ≤ s.length) :
    charsAt s p n = some ((s.drop p).take n) := by
  unfold charsAt
  rw [if_pos (by omega), Int.toNat_natCast, List.drop_append_of_le_length (by omega),
    List.take_append_of_le_length (by rw [List.length_drop]; omega)]

theorem exists_getIndexOf (hs : nul ∉ s) (hother : nul ∉ other) (hne : other ≠ []) {offset : Nat}
    (hfits : offset ≤ s.length → Fits (other.length + offset)) :
    ∃ r, getIndexOf ord s other offset = some r ∧ IsFirstFrom (OccursAt other s) offset r := by
  have hpos : 0 < other.length := List.length_pos_iff.mpr hne
  have hout (h : s.length < offset + other.length) :
      IsFirstFrom (OccursAt other s) offset npos := by
    refine isFirstFrom_none fun p hp hoccurs => ?_
    have := hoccurs.le
    omega
  unfold getIndexOf
  by_cases hoffset : offset ≤ s.length
  · rw [if_neg (by omega), checked_of_fits (hfits hoffset), Option.bind_eq_bind, Option.bind_some]
    by_cases hend : other.length + offset ≤ s.length
    · rw [if_neg (by omega), if_neg (by omega)]
      by_cases hone : other.length = 1
      · obtain ⟨c, rfl⟩ := List.length_eq_one_iff.mp hone
        refine ⟨getIndexOfChar s c offset, rfl, ?_⟩
        rw [getIndexOfChar_of_lt (by omega)]
        exact isFirstFrom_indexFrom (by omega)
      · obtain ⟨m, hm⟩ : ∃ m, other.length = m + 1 := ⟨other.length - 1, by omega⟩
        have hlast : charAt s (offset + olMinus1 other : Int) = some s[offset + m] := by
          have holMinus1 : olMinus1 other = m := by
            unfold olMinus1
            rw [if_neg (by omega)]
            omega
          rw [holMinus1, ← Int.natCast_add, charAt_of_lt (by omega)]
        rw [if_neg hone, charsAt_of_le (by omega)]
        simp only [hlast, hm]
        exact exists_forwardLoop ord hs hother hm (by omega) fun hp => rfl
    · rw [if_pos (by omega)]
      exact ⟨npos, rfl, hout (by omega)⟩
  · rw [if_pos (by omega)]
    exact ⟨npos, rfl, hout (by omega)⟩

theorem getIndexOf_nil {offset : Nat} (hfits : offset ≤ s.length → Fits offset) :
    getIndexOf ord s [] offset = some npos := by
  unfold getIndexOf
  by_cases hoffset : offset ≤ s.length
  · have hchecked : checked (([] : Chars).length + offset) = some (offset : Int) := by
      simpa using checked_of_fits (hfits hoffset)
    rw [if_neg (by omega), hchecked, Option.bind_eq_bind, Option.bind_some, if_neg (by omega)]
    rfl
  · rw [if_pos (by omega)]

theorem exists_searchBackward (hs : nul ∉ s) (hother : nul ∉ other) {offset : Nat}
    (hoffset : offset + other.length ≤ s.length) :
    ∃ r, searchBackward ord s other offset = some r ∧
      IsLastUpTo (OccursAt other s) offset r := by
  unfold searchBackward
  rw [charsAt_of_le hoffset, show ((offset : Int) + 1).toNat = offset + 1 by omega]
  rcases Nat.lt_trichotomy other.length 1 with hzero | hone | hmore
  · have hnil : other = [] := List.length_eq_zero_iff.mp (by omega)
    obtain ⟨c, hc⟩ : ∃ c, charAt s offset = some c := by
      rw [charAt, if_pos (Int.natCast_nonneg _), Int.toNat_natCast]
      exact ⟨_, List.getElem?_eq_getElem (by simp; omega)⟩
    have hoccurs : OccursAt [] s offset := ⟨by omega, List.nil_prefix⟩
    subst hnil
    refine ⟨offset, ?_, isLastUpTo_self hoccurs⟩
    simp [hc, backwardLoop, hash, strNCmp]
  · obtain ⟨c, rfl⟩ := List.length_eq_one_iff.mp hone
    refine ⟨getLastIndexOfChar s c offset, rfl, ?_⟩
    rw [List.length_singleton] at hoffset
    rw [getLastIndexOfChar_of_lt (by omega)]
    exact isLastUpTo_lastIndexBefore (by omega)
  · obtain ⟨m, hm⟩ : ∃ m, other.length = m + 1 := ⟨other.length - 1, by omega⟩
    rw [if_neg (by omega), charAt_of_lt (by omega)]
    simp only [Option.bind_eq_bind, Option.bind_some, hm]
    exact exists_backwardLoop ord hs hother hm (by omega)

/-- The start of a search backwards; a negative one is the end of the string. -/
def lastStart (s : Chars) (start : Int) : Nat := if start < 0 then s.length else start.toNat

theorem exists_getLastIndexOf (hs : nul ∉ s) (hother : nul ∉ other) {start : Int}
    (hstart : start ≤ s.length) (hfits : 0 ≤ start → other.length ≤ s.length) :
    ∃ r, getLastIndexOf ord s other start = some r ∧
      IsLastUpTo (OccursAt other s) (lastStart s start) r := by
  have hbound : lastStart s start ≤ s.length := by
    unfold lastStart
    split <;> omega
  by_cases hlength : other.length ≤ s.length
  · -- The search starts at the last position where the string fits.
    obtain ⟨offset, hoffset, hclamped, hstartle⟩ : ∃ offset : Nat,
        offset + other.length ≤ s.length ∧
        (offset : Int) = (if (if start < 0 then (s.length - other.length : Int) else start) >
          s.length - other.length then (s.length - other.length : Int)
          else if start < 0 then (s.length - other.length : Int) else start) ∧
        offset ≤ lastStart s start ∧
        (offset = lastStart s start ∨ offset + other.length = s.length) := by
      unfold lastStart
      by_cases hneg : start < 0
      · refine ⟨s.length - other.length, ?_⟩
        simp only [if_pos hneg, if_neg (Int.lt_irrefl _)]
        omega
      · simp only [if_neg hneg]
        by_cases hclamp : start > s.length - other.length
        · refine ⟨s.length - other.length, ?_⟩
          simp only [if_pos hclamp]
          omega
        · refine ⟨start.toNat, ?_⟩
          simp only [if_neg hclamp]
          exact ⟨by omega, by omega, Nat.le_refl _, .inl trivial⟩
    obtain ⟨r, hr, hisLast⟩ := exists_searchBackward ord hs hother hoffset
    refine ⟨r, ?_, hisLast.extend hstartle.1 ?_⟩
    · unfold getLastIndexOf
      simp only
      rw [if_neg (by split <;> omega), ← hclamped, hr]
    · intro p hlt hle hoccurs
      have := hoccurs.le
      omega
  · have hneg : start < 0 := by omega
    refine ⟨npos, ?_, .inl ⟨rfl, ?_⟩⟩
    · unfold getLastIndexOf
      simp only [if_pos hneg]
      rw [if_pos (by omega)]
    · intro p hp hoccurs
      have := hoccurs.le
      omega

theorem getLastIndexOf_of_gt {start : Int} (hstart : s.length < start) :
    getLastIndexOf ord s other start = some npos := by
  have hnonneg : ¬start < 0 := by omega
  unfold getLastIndexOf
  simp only [if_neg hnonneg]
  exact if_pos (Or.inr hstart)

end search

end ImsStack.Platform.AString
