import ImsStack.Library.OptionTraverse
import ImsStack.Platform.IpAddress

/-!
What the IPv6 parser makes of the elements between the colons: each stands for some bytes, and the
array is filled with them, in order, when they fit.
-/

namespace ImsStack.Platform.IpAddress

open AString Library.OptionTraverse

def groupBytes (nValue : Nat) : List UInt8 :=
  [.ofNat ((nValue >>> 8) &&& 0xff), .ofNat (nValue &&& 0xff)]

def ipv4Bytes (nIp4 : Nat) : List UInt8 :=
  [.ofNat ((nIp4 >>> 24) &&& 0xff), .ofNat ((nIp4 >>> 16) &&& 0xff),
    .ofNat ((nIp4 >>> 8) &&& 0xff), .ofNat (nIp4 &&& 0xff)]

/-- The bytes of an element that is a group. -/
def groupBytes? (strValue : Chars) : Option (List UInt8) :=
  ((hexToUInt32? strValue).filter (· ≤ 0xffff)).map groupBytes

/-- The bytes of the first element, in front of `next`. -/
def headBytes? (strValue next : Chars) : Option (List UInt8) :=
  if strValue = [] then if next = [] then some [0, 0] else none else groupBytes? strValue

/-- The bytes of an element inside the address; an empty one stands for `nReduced` groups. -/
def innerBytes? (nReduced : Nat) (strValue : Chars) : Option (List UInt8) :=
  if strValue = [] then some (List.replicate (2 * nReduced) 0) else groupBytes? strValue

/-- The bytes of the last element, behind `previous`. -/
def lastBytes? (strValue previous : Chars) : Option (List UInt8) :=
  if strValue = [] then if previous = [] then some [0, 0] else none
  else (groupBytes? strValue).orElse fun _ => (parseIpv4 strValue).map ipv4Bytes

/-- The groups that an empty element inside the address stands for: one less in front of an IPv4
part. -/
def reducedCount (nCount : Nat) (last : List UInt8) : Int :=
  9 - nCount - (if last.length = 4 then 1 else 0)

theorem length_of_groupBytes? {strValue : Chars} {bytes : List UInt8}
    (h : groupBytes? strValue = some bytes) : bytes.length = 2 := by
  obtain ⟨nValue, -, rfl⟩ := Option.map_eq_some_iff.mp h
  rfl

theorem length_of_headBytes? {strValue next : Chars} {bytes : List UInt8}
    (h : headBytes? strValue next = some bytes) : bytes.length = 2 := by
  unfold headBytes? at h
  split at h
  · split at h
    · obtain rfl := Option.some.inj h
      rfl
    · exact absurd h (by simp)
  · exact length_of_groupBytes? h

theorem length_of_lastBytes? {strValue previous : Chars} {bytes : List UInt8}
    (h : lastBytes? strValue previous = some bytes) : bytes.length = 2 ∨ bytes.length = 4 := by
  unfold lastBytes? at h
  split at h
  · split at h
    · obtain rfl := Option.some.inj h
      exact .inl rfl
    · exact absurd h (by simp)
  · cases hgroup : groupBytes? strValue with
    | some group =>
      rw [hgroup] at h
      obtain rfl := Option.some.inj h
      exact .inl (length_of_groupBytes? hgroup)
    | none =>
      rw [hgroup] at h
      obtain ⟨nIp4, -, rfl⟩ := Option.map_eq_some_iff.mp h
      exact .inr rfl

namespace Ipv6Cursor

/-- The cursor with more bytes in front of those written. -/
def prepend (bytes : List UInt8) (cursor : Ipv6Cursor) : Ipv6Cursor :=
  { cursor with written := bytes ++ cursor.written }

theorem pushGroup_eq (nValue : Nat) (cursor : Ipv6Cursor) :
    cursor.pushGroup nValue = cursor.prepend (groupBytes nValue) := rfl

theorem pushGroup_zero (cursor : Ipv6Cursor) : cursor.pushGroup 0 = cursor.prepend [0, 0] := rfl

theorem nMaxCount_le_zero_iff (cursor : Ipv6Cursor) :
    cursor.nMaxCount ≤ 0 ↔ 16 ≤ cursor.written.length := by
  unfold nMaxCount
  omega

theorem pushZeroes_eq_some_iff {n m : Nat} {cursor cursor' : Ipv6Cursor}
    (heven : cursor.written.length = 2 * m) (hroom : m ≤ 8) :
    cursor.pushZeroes n = some cursor' ↔
      m + n ≤ 8 ∧ cursor' = cursor.prepend (List.replicate (2 * n) 0) := by
  induction n generalizing m cursor with
  | zero =>
    rw [pushZeroes, Option.some.injEq, eq_comm]
    exact ⟨fun h => ⟨hroom, h⟩, fun h => h.2⟩
  | succ n ih =>
    have hzeroes : (cursor.pushGroup 0).prepend (List.replicate (2 * n) 0) =
        cursor.prepend (List.replicate (2 * (n + 1)) 0) := by
      rw [pushGroup_zero, prepend, prepend, prepend, Nat.mul_add, Nat.mul_one,
        List.replicate_add, List.append_assoc]
      rfl
    rw [pushZeroes, Option.ite_none_left_eq_some, nMaxCount_le_zero_iff]
    constructor
    · rintro ⟨hlt, h⟩
      have hmore : (cursor.pushGroup 0).written.length = 2 * (m + 1) := by
        rw [pushGroup_zero, prepend, List.length_append, heven]
        simp only [List.length_cons, List.length_nil]
        omega
      obtain ⟨hle, rfl⟩ := (ih hmore (by omega)).mp h
      exact ⟨by omega, hzeroes⟩
    · rintro ⟨hle, rfl⟩
      have hmore : (cursor.pushGroup 0).written.length = 2 * (m + 1) := by
        rw [pushGroup_zero, prepend, List.length_append, heven]
        simp only [List.length_cons, List.length_nil]
        omega
      exact ⟨by omega, (ih hmore (by omega)).mpr ⟨by omega, hzeroes.symm⟩⟩

end Ipv6Cursor

theorem parseElement_inner {objIpv6 : List Chars} {i m : Nat} {cursor cursor' : Ipv6Cursor}
    (hfirst : i ≠ 0) (hlast : i ≠ objIpv6.length - 1) (heven : cursor.written.length = 2 * m)
    (hroom : m < 8) :
    parseElement objIpv6 i cursor = some cursor' ↔
      ∃ bytes, innerBytes? cursor.nReducedCount.toNat (elementAt objIpv6 i) = some bytes ∧
        bytes.length + 2 * m ≤ 16 ∧ cursor' = cursor.prepend bytes := by
  unfold parseElement innerBytes?
  dsimp only
  rw [if_neg (by rw [Ipv6Cursor.nMaxCount_le_zero_iff]; omega)]
  simp only [List.length_eq_zero_iff]
  by_cases hempty : elementAt objIpv6 i = []
  · rw [if_pos hempty, if_neg hlast, if_neg hfirst, if_pos hempty,
      Ipv6Cursor.pushZeroes_eq_some_iff heven (by omega)]
    constructor
    · rintro ⟨hle, rfl⟩
      exact ⟨_, rfl, by rw [List.length_replicate]; omega, rfl⟩
    · rintro ⟨bytes, hbytes, hle, rfl⟩
      obtain rfl := Option.some.inj hbytes
      rw [List.length_replicate] at hle
      exact ⟨by omega, rfl⟩
  · rw [if_neg hempty, if_neg hempty, groupBytes?]
    cases (hexToUInt32? (elementAt objIpv6 i)).filter (· ≤ 0xffff) with
    | none => simp [hlast]
    | some nValue =>
      constructor
      · intro h
        exact ⟨_, rfl, by simp only [groupBytes, List.length_cons, List.length_nil]; omega,
          (Option.some.inj h).symm⟩
      · rintro ⟨bytes, hbytes, -, rfl⟩
        obtain rfl := Option.some.inj hbytes
        rfl

theorem parseElement_first {objIpv6 : List Chars} {cursor cursor' : Ipv6Cursor}
    (hlast : 0 ≠ objIpv6.length - 1) (hroom : cursor.written.length < 16) :
    parseElement objIpv6 0 cursor = some cursor' ↔
      ∃ bytes, headBytes? (elementAt objIpv6 0) (elementAt objIpv6 1) = some bytes ∧
        cursor' = cursor.prepend bytes := by
  unfold parseElement headBytes?
  dsimp only
  rw [if_neg (by rw [Ipv6Cursor.nMaxCount_le_zero_iff]; omega)]
  simp only [List.length_eq_zero_iff, if_neg hlast, ne_eq, ite_not]
  by_cases hempty : elementAt objIpv6 0 = []
  · rw [if_pos hempty, if_pos True.intro, if_pos hempty, Nat.zero_add]
    by_cases hnext : elementAt objIpv6 1 = []
    · simp [hnext, Ipv6Cursor.pushGroup_zero, eq_comm]
    · simp [hnext]
  · rw [if_neg hempty, if_neg hempty, groupBytes?]
    cases (hexToUInt32? (elementAt objIpv6 0)).filter (· ≤ 0xffff) with
    | none => simp
    | some nValue => simp [Ipv6Cursor.pushGroup_eq, eq_comm]

theorem parseElement_last {objIpv6 : List Chars} {i : Nat} {nReducedCount : Int}
    (hlast : i = objIpv6.length - 1) :
    parseElement objIpv6 i ⟨nReducedCount, []⟩ =
      (lastBytes? (elementAt objIpv6 i) (elementAt objIpv6 (i - 1))).map fun bytes =>
        ⟨nReducedCount - (if bytes.length = 4 then 1 else 0), bytes⟩ := by
  unfold parseElement lastBytes?
  dsimp only
  rw [if_neg (by rw [Ipv6Cursor.nMaxCount_le_zero_iff]; simp)]
  simp only [List.length_eq_zero_iff, if_pos hlast, ne_eq, ite_not]
  by_cases hempty : elementAt objIpv6 i = []
  · rw [if_pos hempty, if_pos hempty]
    by_cases hprevious : elementAt objIpv6 (i - 1) = []
    · simp [hprevious, Ipv6Cursor.pushGroup_zero, Ipv6Cursor.prepend]
    · simp [hprevious]
  · rw [if_neg hempty, if_neg hempty, groupBytes?]
    cases (hexToUInt32? (elementAt objIpv6 i)).filter (· ≤ 0xffff) with
    | some nValue => simp [Ipv6Cursor.pushGroup_eq, Ipv6Cursor.prepend, groupBytes]
    | none =>
      cases parseIpv4 (elementAt objIpv6 i) with
      | none => rfl
      | some nIp4 => rfl

theorem parseElement_full {objIpv6 : List Chars} {i : Nat} {cursor : Ipv6Cursor}
    (hfull : 16 ≤ cursor.written.length) : parseElement objIpv6 i cursor = none := by
  unfold parseElement
  rw [if_pos ((Ipv6Cursor.nMaxCount_le_zero_iff cursor).mpr hfull)]

theorem even_of_innerBytes? {nReduced : Nat} {strValue : Chars} {bytes : List UInt8}
    (h : innerBytes? nReduced strValue = some bytes) : ∃ n, bytes.length = 2 * n := by
  unfold innerBytes? at h
  split at h
  · obtain rfl := Option.some.inj h
    exact ⟨nReduced, List.length_replicate⟩
  · exact ⟨1, length_of_groupBytes? h⟩

section elements

variable {first last : Chars} {inner : List Chars}

theorem elementAt_inner {k : Nat} (hk : k < inner.length) :
    elementAt (first :: inner ++ [last]) (k + 1) = inner[k] := by
  rw [elementAt, List.cons_append, List.getD_cons_succ, List.getD_eq_getElem?_getD,
    List.getElem?_append_left hk, List.getElem?_eq_getElem hk, Option.getD_some]

theorem elementAt_last : elementAt (first :: inner ++ [last]) (inner.length + 1) = last := by
  simp [elementAt]

/-- The elements in front of the last one are written from the last of them to the first. -/
theorem parseElements_front {k m : Nat} {cursor cursor' : Ipv6Cursor} (hk : k ≤ inner.length)
    (heven : cursor.written.length = 2 * m) :
    parseElements (first :: inner ++ [last]) (k + 1) cursor = some cursor' ↔
      ∃ head middle, headBytes? first (elementAt (first :: inner ++ [last]) 1) = some head ∧
        (inner.take k).mapM (innerBytes? cursor.nReducedCount.toNat) = some middle ∧
        (head ++ middle.flatten).length + 2 * m ≤ 16 ∧
        cursor' = cursor.prepend (head ++ middle.flatten) := by
  induction k generalizing m cursor with
  | zero =>
    rw [parseElements, Option.bind_eq_some_iff]
    constructor
    · rintro ⟨reached, hreached, hrest⟩
      obtain rfl := Option.some.inj hrest
      have hroom : cursor.written.length < 16 := by
        by_contra hfull
        rw [parseElement_full (by omega)] at hreached
        exact absurd hreached (by simp)
      obtain ⟨head, hhead, rfl⟩ :=
        (@parseElement_first (first :: inner ++ [last]) _ _ (by simp) hroom).mp hreached
      have hlength := length_of_headBytes? hhead
      refine ⟨head, [], hhead, by simp, ?_, by simp⟩
      rw [List.flatten_nil, List.append_nil]
      omega
    · rintro ⟨head, middle, hhead, hmiddle, hle, rfl⟩
      have hlength := length_of_headBytes? hhead
      obtain rfl : middle = [] := by simpa using hmiddle.symm
      rw [List.flatten_nil, List.append_nil] at hle ⊢
      refine ⟨_, (parseElement_first (by simp) (by omega)).mpr ⟨head, hhead, rfl⟩, rfl⟩
  | succ k ih =>
    have hlt : k < inner.length := hk
    have htake : inner.take (k + 1) = inner.take k ++ [inner[k]] :=
      (List.take_append_getElem hlt).symm
    have hinner := @elementAt_inner first last inner _ hlt
    have hplace : k + 1 ≠ (first :: inner ++ [last]).length - 1 := by
      simp only [List.cons_append, List.length_cons, List.length_append, List.length_nil]
      omega
    rw [parseElements, Option.bind_eq_some_iff, htake]
    constructor
    · rintro ⟨reached, hreached, hrest⟩
      have hroom : cursor.written.length < 16 := by
        by_contra hfull
        rw [parseElement_full (by omega)] at hreached
        exact absurd hreached (by simp)
      obtain ⟨bytes, hbytes, hle, rfl⟩ :=
        (parseElement_inner (Nat.succ_ne_zero k) hplace heven (by omega)).mp hreached
      rw [hinner] at hbytes
      obtain ⟨n, hn⟩ := even_of_innerBytes? hbytes
      have hmore : (cursor.prepend bytes).written.length = 2 * (m + n) := by
        rw [Ipv6Cursor.prepend, List.length_append, heven, hn]
        omega
      obtain ⟨head, middle, hhead, hmiddle, hfits, rfl⟩ := (ih (by omega) hmore).mp hrest
      refine ⟨head, middle ++ [bytes], hhead, ?_, ?_, ?_⟩
      · exact mapM_append_eq_some_iff.mpr ⟨middle, [bytes], hmiddle, by simp [hbytes], rfl⟩
      · rw [List.flatten_append, List.flatten_singleton, ← List.append_assoc, List.length_append, hn]
        omega
      · simp [Ipv6Cursor.prepend]
    · rintro ⟨head, middle, hhead, hmiddle, hfits, rfl⟩
      obtain ⟨front, rest, hfront, hrest, rfl⟩ := mapM_append_eq_some_iff.mp hmiddle
      obtain ⟨bytes, nothing, hbytes, hnothing, rfl⟩ := mapM_cons_eq_some_iff.mp hrest
      obtain rfl : nothing = [] := by simpa using hnothing.symm
      have hlength := length_of_headBytes? hhead
      obtain ⟨n, hn⟩ := even_of_innerBytes? hbytes
      rw [List.flatten_append, List.flatten_singleton, ← List.append_assoc, List.length_append,
        List.length_append, hn] at hfits
      have hmore : (cursor.prepend bytes).written.length = 2 * (m + n) := by
        rw [Ipv6Cursor.prepend, List.length_append, heven, hn]
        omega
      refine ⟨cursor.prepend bytes, ?_, (ih (by omega) hmore).mpr ⟨head, front, hhead, hfront, ?_, ?_⟩⟩
      · exact (parseElement_inner (Nat.succ_ne_zero k) hplace heven (by omega)).mpr
          ⟨bytes, by rw [hinner]; exact hbytes, by omega, rfl⟩
      · rw [List.length_append]
        omega
      · simp [Ipv6Cursor.prepend]

/-- The elements of a text that has two colons at least fill the array when their bytes fit. -/
theorem parseElements_eq_some_iff (hinner : inner ≠ []) {cursor : Ipv6Cursor} :
    parseElements (first :: inner ++ [last]) (first :: inner ++ [last]).length
        ⟨9 - (first :: inner ++ [last]).length, []⟩ = some cursor ↔
      ∃ head middle tail, headBytes? first (inner.head hinner) = some head ∧
        lastBytes? last (inner.getLast hinner) = some tail ∧
        inner.mapM (innerBytes? (reducedCount (inner.length + 2) tail).toNat) = some middle ∧
        (head ++ middle.flatten ++ tail).length ≤ 16 ∧
        cursor = ⟨reducedCount (inner.length + 2) tail, head ++ middle.flatten ++ tail⟩ := by
  have hlength : (first :: inner ++ [last]).length = inner.length + 1 + 1 := by simp
  have hpositive : 0 < inner.length := List.length_pos_of_ne_nil hinner
  have hsecond : elementAt (first :: inner ++ [last]) 1 = inner.head hinner := by
    rw [List.head_eq_getElem]
    exact elementAt_inner hpositive
  have hprevious : elementAt (first :: inner ++ [last]) inner.length = inner.getLast hinner := by
    have hplace := @elementAt_inner first last inner _
      (show inner.length - 1 < inner.length by omega)
    rw [Nat.sub_add_cancel hpositive] at hplace
    rw [List.getLast_eq_getElem, hplace]
  have htake : inner.take inner.length = inner := List.take_length
  rw [hlength, parseElements, Option.bind_eq_some_iff, parseElement_last (by rw [hlength]; rfl),
    elementAt_last, Nat.add_sub_cancel, hprevious]
  constructor
  · rintro ⟨reached, hreached, hrest⟩
    obtain ⟨tail, htail, rfl⟩ := Option.map_eq_some_iff.mp hreached
    obtain ⟨m, hm⟩ : ∃ m, tail.length = 2 * m := by
      rcases length_of_lastBytes? htail with h | h
      · exact ⟨1, h⟩
      · exact ⟨2, h⟩
    obtain ⟨head, middle, hhead, hmiddle, hle, rfl⟩ := (parseElements_front (Nat.le_refl _) hm).mp hrest
    rw [hsecond] at hhead
    rw [htake] at hmiddle
    refine ⟨head, middle, tail, hhead, htail, hmiddle, ?_, rfl⟩
    rw [List.length_append, hm]
    exact hle
  · rintro ⟨head, middle, tail, hhead, htail, hmiddle, hle, rfl⟩
    obtain ⟨m, hm⟩ : ∃ m, tail.length = 2 * m := by
      rcases length_of_lastBytes? htail with h | h
      · exact ⟨1, h⟩
      · exact ⟨2, h⟩
    refine ⟨_, Option.map_eq_some_iff.mpr ⟨tail, htail, rfl⟩,
      (parseElements_front (Nat.le_refl _) hm).mpr ⟨head, middle, ?_, ?_, ?_, rfl⟩⟩
    · rw [hsecond]
      exact hhead
    · rw [htake]
      exact hmiddle
    · rw [List.length_append, hm] at hle
      exact hle

end elements

end ImsStack.Platform.IpAddress
