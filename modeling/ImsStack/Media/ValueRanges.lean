import ImsStack.Media.AudioFmtpText
import ImsStack.Platform.Numerals
import ImsStack.Platform.Tokens
import Mathlib.Tactic.ByContra

/-!
Rates and bandwidths as text: what is written for a list of them, what is read from it, and which
ranges are read.
-/

namespace ImsStack.Media.AudioFmtpText

open ImsStack.Platform ImsStack.Platform.AString ImsStack.Platform.Numerals
  ImsStack.Platform.Tokens

/-! ### Bits -/

section Bits

variable {nList : BitVec 32} {i j k n : Nat}

theorem getLsbD_empty (k : Nat) : (0 : BitVec 32).getLsbD k = false := BitVec.getLsbD_zero

theorem getLsbD_bit (n k : Nat) : (bit n).getLsbD k = decide (k = n ∧ k < 32) := by
  unfold bit
  rw [BitVec.getLsbD_shiftLeft, BitVec.getLsbD_one, Bool.eq_iff_iff]
  simp only [Bool.and_eq_true, decide_eq_true_eq, Bool.not_eq_true', decide_eq_false_iff_not]
  omega

theorem hasBit_eq (hn : n < 32) : hasBit nList n = nList.getLsbD n := by
  unfold hasBit
  rw [Bool.eq_iff_iff, decide_eq_true_eq]
  constructor
  · intro hne
    by_contra hbit
    apply hne
    refine BitVec.eq_of_getLsbD_eq fun k _ => ?_
    rw [BitVec.getLsbD_and, getLsbD_bit, getLsbD_empty]
    by_cases hk : k = n
    · rw [hk, Bool.eq_false_iff.mpr hbit, Bool.false_and]
    · rw [decide_eq_false fun h => hk h.1, Bool.and_false]
  · intro hbit hzero
    have hmasked : (nList &&& bit n).getLsbD n = true := by
      rw [BitVec.getLsbD_and, getLsbD_bit, hbit, decide_eq_true ⟨rfl, hn⟩, Bool.and_true]
    rw [hzero, getLsbD_empty] at hmasked
    exact Bool.false_ne_true hmasked

theorem getLsbD_foldl_bit (start : BitVec 32) (i m k : Nat) :
    ((List.range' i m).foldl (fun nList k => nList ||| bit k) start).getLsbD k =
      (start.getLsbD k || decide (i ≤ k ∧ k < i + m ∧ k < 32)) := by
  induction m generalizing start i with
  | zero =>
    rw [List.range'_zero, List.foldl_nil, decide_eq_false (by omega), Bool.or_false]
  | succ m ih =>
    rw [List.range'_succ, List.foldl_cons, ih, BitVec.getLsbD_or, getLsbD_bit, Bool.or_assoc,
      ← Bool.decide_or]
    congr 1
    rw [decide_eq_decide]
    omega

theorem getLsbD_rangeBits (i j k : Nat) :
    (rangeBits i j).getLsbD k = decide (i ≤ k ∧ k ≤ j ∧ k < 32) := by
  unfold rangeBits
  rw [getLsbD_foldl_bit, getLsbD_empty, Bool.false_or, decide_eq_decide]
  omega

theorem rangeBits_self (i : Nat) : rangeBits i i = bit i := by
  refine BitVec.eq_of_getLsbD_eq fun k _ => ?_
  rw [getLsbD_rangeBits, getLsbD_bit, decide_eq_decide]
  omega

theorem rangeBits_ne_zero_iff (hi : i < 32) : rangeBits i j ≠ 0 ↔ i ≤ j := by
  constructor
  · intro hne
    by_contra hlt
    apply hne
    refine BitVec.eq_of_getLsbD_eq fun k _ => ?_
    rw [getLsbD_rangeBits, getLsbD_empty]
    exact decide_eq_false (by omega)
  · intro hle hzero
    have hbit : (rangeBits i j).getLsbD i = true := by
      rw [getLsbD_rangeBits]
      exact decide_eq_true ⟨Nat.le_refl i, hle, hi⟩
    rw [hzero, getLsbD_empty] at hbit
    exact Bool.false_ne_true hbit

/-! ### Runs of bits -/

/-- The places of the bits below a number. -/
def listed (n : Nat) (nList : BitVec 32) : List Nat := (List.range n).filter (hasBit nList)

/-- The bits from the lowest one to the highest one below a number. -/
def hull (n : Nat) (nList : BitVec 32) : BitVec 32 :=
  match listed n nList with
  | [] => 0
  | i :: others => rangeBits i (others.getLast?.getD i)

/-- The bits are those of one range below a number, or there are none. -/
def IsRun (n : Nat) (nList : BitVec 32) : Prop :=
  nList = 0 ∨ ∃ i j, i ≤ j ∧ j < n ∧ nList = rangeBits i j

theorem mem_listed (hn : n ≤ 32) : k ∈ listed n nList ↔ k < n ∧ nList.getLsbD k = true := by
  unfold listed
  rw [List.mem_filter, List.mem_range]
  constructor
  · rintro ⟨hk, hbit⟩
    exact ⟨hk, by rwa [hasBit_eq (Nat.lt_of_lt_of_le hk hn)] at hbit⟩
  · rintro ⟨hk, hbit⟩
    exact ⟨hk, by rwa [hasBit_eq (Nat.lt_of_lt_of_le hk hn)]⟩

theorem listed_sorted (n : Nat) (nList : BitVec 32) : (listed n nList).Pairwise (· < ·) :=
  List.pairwise_lt_range.filter _

theorem listed_succ (n : Nat) (nList : BitVec 32) :
    listed (n + 1) nList = listed n nList ++ if hasBit nList n then [n] else [] := by
  unfold listed
  rw [List.range_succ, List.filter_append, List.filter_cons, List.filter_nil]

theorem le_getLast_of_sorted {others : List Nat} (h : (i :: others).Pairwise (· < ·))
    (hk : k ∈ i :: others) : i ≤ k ∧ k ≤ others.getLast?.getD i := by
  constructor
  · rcases List.mem_cons.mp hk with rfl | hk
    · exact Nat.le_refl _
    · exact Nat.le_of_lt (List.rel_of_pairwise_cons h hk)
  · induction others generalizing i k with
    | nil => exact Nat.le_of_eq (List.mem_singleton.mp hk)
    | cons j others ih =>
      rw [List.getLast?_cons, Option.getD_some]
      have hothers := List.Pairwise.of_cons h
      rcases List.mem_cons.mp hk with rfl | hk
      · exact Nat.le_trans (Nat.le_of_lt (List.rel_of_pairwise_cons h List.mem_cons_self))
          (ih hothers List.mem_cons_self)
      · exact ih hothers hk

theorem getLast_mem {others : List Nat} : others.getLast?.getD i ∈ i :: others := by
  cases hlast : others.getLast? with
  | none => exact List.mem_cons_self
  | some j => exact List.mem_cons_of_mem _ (List.mem_of_getLast? hlast)

theorem getLsbD_hull (hn : n ≤ 32) :
    (hull n nList).getLsbD k = true ↔
      ∃ i ∈ listed n nList, ∃ j ∈ listed n nList, i ≤ k ∧ k ≤ j := by
  unfold hull
  have hsorted := listed_sorted n nList
  have hmem {l : Nat} (hl : l ∈ listed n nList) : l < n := ((mem_listed hn).mp hl).1
  cases hlisted : listed n nList with
  | nil => simp
  | cons i others =>
    rw [hlisted] at hsorted hmem
    dsimp only
    rw [getLsbD_rangeBits, decide_eq_true_eq]
    constructor
    · rintro ⟨hle, hlast, -⟩
      exact ⟨i, List.mem_cons_self, _, getLast_mem, hle, hlast⟩
    · rintro ⟨low, hlow, high, hhigh, hle, hge⟩
      have hlow' := le_getLast_of_sorted hsorted hlow
      have hhigh' := le_getLast_of_sorted hsorted hhigh
      exact ⟨Nat.le_trans hlow'.1 hle, Nat.le_trans hge hhigh'.2,
        Nat.lt_of_le_of_lt hge (Nat.lt_of_lt_of_le (hmem hhigh) hn)⟩

theorem hull_eq_self_iff (hn : n ≤ 32) : hull n nList = nList ↔ IsRun n nList := by
  constructor
  · intro h
    have hmem {l : Nat} (hl : l ∈ listed n nList) : l < n := ((mem_listed hn).mp hl).1
    have hsorted := listed_sorted n nList
    unfold hull at h
    cases hlisted : listed n nList with
    | nil =>
      rw [hlisted] at h
      exact .inl h.symm
    | cons i others =>
      rw [hlisted] at h hmem hsorted
      exact .inr ⟨i, _, (le_getLast_of_sorted hsorted List.mem_cons_self).2, hmem getLast_mem,
        h.symm⟩
  · intro h
    refine BitVec.eq_of_getLsbD_eq fun k _ => ?_
    rw [Bool.eq_iff_iff, getLsbD_hull hn]
    rcases h with rfl | ⟨low, high, hle, hhigh, rfl⟩
    · constructor
      · rintro ⟨i, hi, -⟩
        have hbit := ((mem_listed hn).mp hi).2
        rw [getLsbD_empty] at hbit
        exact absurd hbit Bool.false_ne_true
      · intro hbit
        rw [getLsbD_empty] at hbit
        exact absurd hbit Bool.false_ne_true
    · constructor
      · rintro ⟨i, hi, j, hj, hik, hkj⟩
        have hi := ((mem_listed hn).mp hi).2
        have hj := ((mem_listed hn).mp hj).2
        rw [getLsbD_rangeBits, decide_eq_true_eq] at hi hj ⊢
        omega
      · intro hbit
        have hk : k ∈ listed n (rangeBits low high) := by
          rw [mem_listed hn]
          refine ⟨?_, hbit⟩
          rw [getLsbD_rangeBits, decide_eq_true_eq] at hbit
          omega
        exact ⟨k, hk, k, hk, Nat.le_refl k, Nat.le_refl k⟩

theorem hull_eq_zero_iff (hn : n ≤ 32) : hull n nList = 0 ↔ listed n nList = [] := by
  constructor
  · intro h
    cases hlisted : listed n nList with
    | nil => rfl
    | cons i others =>
      have hbit : (hull n nList).getLsbD i = true := by
        rw [getLsbD_hull hn, hlisted]
        exact ⟨i, List.mem_cons_self, i, List.mem_cons_self, Nat.le_refl i, Nat.le_refl i⟩
      rw [h, getLsbD_empty] at hbit
      exact absurd hbit Bool.false_ne_true
  · intro h
    unfold hull
    rw [h]

end Bits

/-! ### What is written -/

section Written

variable {table : List Chars} {separator : Chars} {nList : BitVec 32} {n : Nat}

/-- The values of a list as text: one, or a range. -/
def textOf : List Chars → Chars
  | [] => []
  | [strValue] => strValue
  | strFirst :: strNext :: others => strFirst ++ '-' :: others.getLast?.getD strNext

theorem collectValues_eq (table : List Chars) (separator : Chars) (nList : BitVec 32) (n : Nat) :
    collectValues table separator nList n =
      ((listed n nList).mapM fun k => table[k]?).map fun names =>
        names.foldl (fun values => values.add separator) {} := by
  induction n with
  | zero => rfl
  | succ n ih =>
    rw [collectValues, ih, listed_succ, List.mapM_append]
    cases hnames : (listed n nList).mapM fun k => table[k]? with
    | none => rfl
    | some names =>
      by_cases hbit : hasBit nList n = true
      · rw [if_pos hbit]
        cases hname : table[n]? with
        | none => simp [hbit, hname]
        | some strValue => simp [hbit, hname]
      · rw [if_neg hbit]
        simp [hbit]

theorem foldl_add {values : Values} (h : 0 < values.nTotalCnt) (names : List Chars) :
    (names.foldl (fun values => values.add separator) values).nTotalCnt =
        values.nTotalCnt + names.length ∧
      (names.foldl (fun values => values.add separator) values).strFirst = values.strFirst ∧
      (names.foldl (fun values => values.add separator) values).strLast =
        names.getLast?.getD values.strLast := by
  induction names generalizing values with
  | nil => exact ⟨rfl, rfl, rfl⟩
  | cons strValue names ih =>
    have hadd : (values.add separator strValue).strFirst = values.strFirst :=
      if_neg (by omega)
    have hpos : 0 < (values.add separator strValue).nTotalCnt := Nat.succ_pos _
    obtain ⟨hcount, hfirst, hlast⟩ := ih hpos
    rw [List.foldl_cons]
    refine ⟨?_, hfirst.trans hadd, ?_⟩
    · rw [hcount, List.length_cons]
      exact Nat.succ_add_eq_add_succ _ _
    · rw [hlast, List.getLast?_cons, Option.getD_some]
      rfl

theorem valuesText_eq (table : List Chars) (separator : Chars) (nList : BitVec 32) (nEnd : Nat) :
    valuesText table separator nList nEnd =
      ((listed nEnd nList).mapM fun k => table[k]?).map textOf := by
  unfold valuesText
  rw [collectValues_eq, Option.map_map]
  refine congrArg (Option.map · _) (funext fun names => ?_)
  rcases names with _ | ⟨strFirst, _ | ⟨strNext, others⟩⟩
  · rfl
  · rfl
  · have hstart : 0 < (({} : Values).add separator strFirst).nTotalCnt := Nat.one_pos
    obtain ⟨hcount, hfirst, hlast⟩ := @foldl_add separator _ hstart (strNext :: others)
    have hmany : (({} : Values).add separator strFirst).nTotalCnt + (strNext :: others).length > 1 :=
      Nat.lt_add_of_pos_right (Nat.succ_pos _)
    rw [Function.comp_apply, List.foldl_cons, hcount, hfirst, hlast, if_pos hmany,
      List.getLast?_cons, Option.getD_some]
    rfl

/-- What is written for a list whose values the table has. -/
def listText (table : List Chars) (nEnd : Nat) (nList : BitVec 32) : Chars :=
  textOf ((listed nEnd nList).filterMap fun k => table[k]?)

theorem mapM_eq_filterMap {ks : List Nat} (h : ∀ k ∈ ks, k < table.length) :
    (ks.mapM fun k => table[k]?) = some (ks.filterMap fun k => table[k]?) := by
  induction ks with
  | nil => rfl
  | cons k ks ih =>
    have hlt := h k List.mem_cons_self
    have hk : table[k]? = some table[k] := List.getElem?_eq_getElem hlt
    rw [List.mapM_cons, hk, ih fun l hl => h l (List.mem_cons_of_mem _ hl),
      List.filterMap_cons_some hk]
    rfl

theorem mapM_eq_none {ks : List Nat} {k : Nat} (hk : k ∈ ks) (hlength : table.length ≤ k) :
    (ks.mapM fun k => table[k]?) = none := by
  induction ks with
  | nil => exact absurd hk List.not_mem_nil
  | cons l ks ih =>
    rw [List.mapM_cons]
    rcases List.mem_cons.mp hk with rfl | hk
    · rw [List.getElem?_eq_none hlength]
      rfl
    · rw [ih hk]
      cases table[l]? <;> rfl

theorem valuesText_eq_some {nEnd : Nat} (h : ∀ k ∈ listed nEnd nList, k < table.length) :
    valuesText table separator nList nEnd = some (listText table nEnd nList) := by
  rw [valuesText_eq, mapM_eq_filterMap h]
  rfl

end Written

/-! ### What is read -/

/-- What two texts have in common that are equal but for the case of letters. -/
def folded (s : Chars) : Nat × Chars := (s.length, (cString s).map toLower)

theorem equalsIgnoreCase_iff {a b : Chars} :
    NullString.equalsIgnoreCase (some a) (some b) = true ↔ folded a = folded b := by
  unfold NullString.equalsIgnoreCase folded equalsIgnoreCase
  simp only [Option.isSome_some, NullString.length, NullString.chars, Option.getD_some,
    Bool.and_eq_true, beq_iff_eq, Prod.mk.injEq, beq_self_eq_true, true_and]

/-- A character that stands in no separator of a text of parameters. -/
def IsPlain (c : Char) : Prop :=
  c ≠ '-' ∧ c ≠ ',' ∧ c ≠ ';' ∧ c ≠ '=' ∧ isSpace c = false

instance : DecidablePred IsPlain := fun c =>
  inferInstanceAs (Decidable (c ≠ '-' ∧ c ≠ ',' ∧ c ≠ ';' ∧ c ≠ '=' ∧ isSpace c = false))

instance (strValue : Chars) : Decidable (∀ c ∈ strValue, IsPlain c) := List.decidableBAll _ _

structure IsTable (table : List Chars) : Prop where
  distinct : (table.map folded).Nodup
  plain : ∀ strValue ∈ table, strValue ≠ [] ∧ ∀ c ∈ strValue, IsPlain c
  short : table.length ≤ 32

theorem isTable_EVS_BR : IsTable EVS_BR := ⟨by decide, by decide, by decide⟩

theorem isTable_EVS_BW : IsTable EVS_BW := ⟨by decide, by decide, by decide⟩

/-- Where a value is in a table. -/
def position (table : List Chars) (strValue : Chars) : Option Nat :=
  table.findIdx? fun strEntry => NullString.equalsIgnoreCase (some strValue) (some strEntry)

section Read

variable {table : List Chars} {strEntry strValue strFirst strLast : Chars}

theorem position_cons : position (strEntry :: table) strValue =
    if NullString.equalsIgnoreCase (some strValue) (some strEntry) = true then some 0
    else (position table strValue).map (· + 1) :=
  List.findIdx?_cons

theorem position_eq_none_of_distinct (h : ((strEntry :: table).map folded).Nodup)
    (hequal : NullString.equalsIgnoreCase (some strValue) (some strEntry) = true) :
    position table strValue = none := by
  refine List.findIdx?_eq_none_iff.mpr fun other hother => Bool.eq_false_iff.mpr fun hsame => ?_
  refine (List.nodup_cons.mp h).1 ?_
  rw [← equalsIgnoreCase_iff.mp hequal, equalsIgnoreCase_iff.mp hsame]
  exact List.mem_map_of_mem hother

theorem position_lt {i : Nat} (h : position table strValue = some i) : i < table.length :=
  (List.findIdx?_eq_some_iff_getElem.mp h).1

theorem position_of_getElem? (h : (table.map folded).Nodup) {i : Nat}
    (hi : table[i]? = some strValue) : position table strValue = some i := by
  induction table generalizing i with
  | nil => exact absurd hi.symm (Option.some_ne_none _)
  | cons strEntry table ih =>
    rw [position_cons]
    cases i with
    | zero =>
      obtain rfl : strEntry = strValue := Option.some.inj hi
      rw [if_pos (equalsIgnoreCase_iff.mpr rfl)]
    | succ i =>
      have hothers := ih (List.nodup_cons.mp h).2 hi
      have hne : ¬NullString.equalsIgnoreCase (some strValue) (some strEntry) = true := by
        intro hequal
        rw [position_eq_none_of_distinct h hequal] at hothers
        exact absurd hothers.symm (Option.some_ne_none _)
      rw [if_neg hne, hothers]
      rfl

/-- The search finds the last end, and the first one where it does not stand behind the last. -/
theorem findRange_eq (h : (table.map folded).Nodup) (j nFirst : Nat) :
    findRange strFirst strLast j table nFirst =
      ((((position table strFirst).filter fun i => (position table strLast).all fun l =>
          decide (i ≤ l)).map (j + ·)).getD nFirst,
        ((position table strLast).map (j + ·)).getD 0) := by
  induction table generalizing j nFirst with
  | nil => rfl
  | cons strEntry table ih =>
    have hothers := ih (List.nodup_cons.mp h).2 (j + 1)
    have hnone := @position_eq_none_of_distinct table strEntry
    rw [findRange, position_cons, position_cons]
    by_cases hfirst : NullString.equalsIgnoreCase (some strFirst) (some strEntry) = true
    · by_cases hlast : NullString.equalsIgnoreCase (some strLast) (some strEntry) = true
      · simp [hfirst, hlast, Option.filter]
      · simp only [hfirst, hlast, if_true, if_false, Bool.false_eq_true, hothers,
          hnone h hfirst]
        cases position table strLast <;> simp [Nat.add_assoc, Nat.add_comm 1, Option.filter]
    · by_cases hlast : NullString.equalsIgnoreCase (some strLast) (some strEntry) = true
      · simp only [hfirst, hlast, if_true, if_false, Bool.false_eq_true]
        cases position table strFirst <;> simp [Option.filter]
      · simp only [hfirst, hlast, if_false, Bool.false_eq_true, hothers]
        cases position table strLast <;> cases position table strFirst <;>
          simp [Nat.add_assoc, Nat.add_comm 1, Option.filter]

/-- Both ends are values of the table, and the first is not above the last. -/
def IsRange (table : List Chars) (strFirst strLast : Chars) : Prop :=
  ∃ i l, position table strFirst = some i ∧ position table strLast = some l ∧ i ≤ l

theorem rangeList_of_known (h : IsTable table) {i l : Nat}
    (hfirst : position table strFirst = some i) (hlast : position table strLast = some l)
    (hle : i ≤ l) : rangeList table strFirst strLast = rangeBits i l := by
  unfold rangeList
  rw [findRange_eq h.distinct, hfirst, hlast]
  simp [Option.filter, hle]

/-- What a range means by the places of its two ends, of which the code only looks at those that it
finds: an end that is not in the table, and a first one behind the last, count as the first value.
-/
def rangeMeaning : Option Nat → Option Nat → BitVec 32
  | some i, some l => if i ≤ l then rangeBits i l else rangeBits 0 l
  | none, some l => rangeBits 0 l
  | some (_ + 1), none => 0
  | _, none => rangeBits 0 0

theorem rangeList_eq (h : IsTable table) : rangeList table strFirst strLast =
    rangeMeaning (position table strFirst) (position table strLast) := by
  unfold rangeList
  rw [findRange_eq h.distinct]
  cases hlast : position table strLast with
  | none =>
    cases hfirst : position table strFirst with
    | none => rfl
    | some i =>
      cases i with
      | zero => rfl
      | succ i =>
        have hzero : rangeBits (i + 1) 0 = 0 := by
          by_contra hne
          have hi := Nat.lt_of_lt_of_le (position_lt hfirst) h.short
          exact Nat.not_succ_le_zero i ((rangeBits_ne_zero_iff hi).mp hne)
        simpa [Option.filter, rangeMeaning] using hzero
  | some l =>
    cases hfirst : position table strFirst with
    | none => simp [rangeMeaning, Option.filter]
    | some i =>
      by_cases hle : i ≤ l
      · simp [rangeMeaning, Option.filter, hle]
      · simp [rangeMeaning, Option.filter, hle]

/-- A range is empty only where its first end is found behind the first value, and the last end
nowhere. -/
theorem rangeMeaning_eq_zero_iff {first last : Option Nat} (hfirst : ∀ i ∈ first, i < 32)
    (hlast : ∀ l ∈ last, l < 32) :
    rangeMeaning first last = 0 ↔ last = none ∧ ∃ i, first = some (i + 1) := by
  have hne {i l : Nat} (hi : i < 32) (hle : i ≤ l) : rangeBits i l ≠ 0 :=
    (rangeBits_ne_zero_iff hi).mpr hle
  rcases last with _ | l
  · rcases first with _ | _ | i
    · simpa [rangeMeaning] using hne (by decide) (Nat.le_refl 0)
    · simpa [rangeMeaning] using hne (by decide) (Nat.le_refl 0)
    · simp [rangeMeaning]
  · rcases first with _ | i
    · simpa [rangeMeaning] using hne (by decide) (Nat.zero_le l)
    · by_cases hle : i ≤ l
      · simpa [rangeMeaning, hle] using hne (hfirst i rfl) hle
      · simpa [rangeMeaning, hle] using hne (by decide) (Nat.zero_le l)

theorem valueList_eq (h : (table.map folded).Nodup) (strValue : Chars) (k : Nat) :
    valueList strValue k table =
      ((position table strValue).map fun i => bit (k + i)).getD 0 := by
  induction table generalizing k with
  | nil => rfl
  | cons strEntry table ih =>
    rw [valueList, ih (List.nodup_cons.mp h).2, position_cons]
    by_cases hequal : NullString.equalsIgnoreCase (some strValue) (some strEntry) = true
    · rw [if_pos hequal, if_pos hequal, position_eq_none_of_distinct h hequal]
      exact BitVec.or_zero
    · rw [if_neg hequal, if_neg hequal]
      cases position table strValue with
      | none => exact BitVec.or_zero
      | some i =>
        have hplace : k + 1 + i = k + (i + 1) := by omega
        simp [hplace]

/-- What is written has no character of a separator but the hyphen of a range. -/
theorem mem_listText (h : IsTable table) {nEnd : Nat} {nList : BitVec 32} {c : Char}
    (hc : c ∈ listText table nEnd nList) : c = '-' ∨ IsPlain c := by
  have hnames {strValue : Chars} (hvalue : strValue ∈
      (listed nEnd nList).filterMap fun k => table[k]?) (hc : c ∈ strValue) : IsPlain c := by
    obtain ⟨k, -, hk⟩ := List.mem_filterMap.mp hvalue
    exact (h.plain strValue (List.mem_of_getElem? hk)).2 c hc
  unfold listText at hc
  generalize (listed nEnd nList).filterMap (fun k => table[k]?) = names at hnames hc
  rcases names with _ | ⟨strFirst, _ | ⟨strNext, others⟩⟩
  · exact absurd hc List.not_mem_nil
  · exact .inr (hnames List.mem_cons_self hc)
  · rcases List.mem_append.mp hc with hc | hc
    · exact .inr (hnames List.mem_cons_self hc)
    · rcases List.mem_cons.mp hc with rfl | hc
      · exact .inl rfl
      · refine .inr (hnames (List.mem_cons_of_mem _ ?_) hc)
        cases hlast : others.getLast? with
        | none => exact List.mem_cons_self
        | some strLast => exact List.mem_cons_of_mem _ (List.mem_of_getLast? hlast)

theorem strip_of_plain (h : ∀ c ∈ strValue, IsPlain c) : strip strValue = strValue :=
  strip_eq_self fun c hc => (h c hc).2.2.2.2

theorem split_of_plain {sep : Char} (hsep : ¬IsPlain sep) (h : ∀ c ∈ strValue, IsPlain c) :
    split sep strValue = [strValue] := by
  rw [split_of_not_mem fun hmem => hsep (h sep hmem), strip_of_plain h]

theorem readValues_value (h : IsTable table) {i : Nat} (hi : table[i]? = some strValue) :
    readValues table strValue = bit i := by
  have hplain := (h.plain strValue (List.mem_of_getElem? hi)).2
  unfold readValues
  rw [split_of_plain (by decide) hplain]
  dsimp only
  rw [split_of_plain (by decide) hplain, List.foldl_cons, List.foldl_nil,
    valueList_eq h.distinct, position_of_getElem? h.distinct hi, Option.map_some,
    Option.getD_some, Nat.zero_add]
  exact BitVec.zero_or

theorem readValues_range (h : IsTable table) {i l : Nat} (hi : table[i]? = some strFirst)
    (hl : table[l]? = some strLast) (hle : i ≤ l) :
    readValues table (strFirst ++ '-' :: strLast) = rangeBits i l := by
  have hfirst := (h.plain strFirst (List.mem_of_getElem? hi)).2
  have hlast := (h.plain strLast (List.mem_of_getElem? hl)).2
  unfold readValues
  rw [split_append_cons fun hmem => (hfirst _ hmem).1 rfl, split_of_plain (by decide) hlast,
    strip_of_plain hfirst]
  exact rangeList_of_known h (position_of_getElem? h.distinct hi)
    (position_of_getElem? h.distinct hl) hle

theorem readValues_listText (h : IsTable table) {nList : BitVec 32} :
    (listText table table.length nList = [] ↔ hull table.length nList = 0) ∧
      (listText table table.length nList ≠ [] →
        readValues table (listText table table.length nList) = hull table.length nList) := by
  have hmem {k : Nat} (hk : k ∈ listed table.length nList) :
      ∃ strValue, table[k]? = some strValue :=
    ⟨_, List.getElem?_eq_getElem ((mem_listed h.short).mp hk).1⟩
  have hsorted := listed_sorted table.length nList
  rw [hull_eq_zero_iff h.short]
  unfold listText hull
  cases hlisted : listed table.length nList with
  | nil => exact ⟨by simp [textOf], fun hne => absurd rfl hne⟩
  | cons i others =>
    rw [hlisted] at hmem hsorted
    obtain ⟨strFirst, hfirst⟩ := hmem List.mem_cons_self
    rw [List.filterMap_cons_some hfirst]
    cases others with
    | nil =>
      have hne := (h.plain strFirst (List.mem_of_getElem? hfirst)).1
      refine ⟨by simp [textOf, hne], fun _ => ?_⟩
      exact (readValues_value h hfirst).trans (rangeBits_self i).symm
    | cons j others =>
      obtain ⟨strNext, hnext⟩ := hmem (List.mem_cons_of_mem _ List.mem_cons_self)
      rw [List.filterMap_cons_some hnext]
      refine ⟨by simp [textOf], fun _ => ?_⟩
      have hlast := @getLast_mem j others
      obtain ⟨strLast, hlastValue⟩ := hmem (List.mem_cons_of_mem _ hlast)
      have hnames : (others.filterMap fun k => table[k]?).getLast?.getD strNext = strLast := by
        rcases others.eq_nil_or_concat with rfl | ⟨front, k, rfl⟩
        · exact Option.some.inj (hnext.symm.trans hlastValue)
        · rw [List.concat_eq_append, List.getLast?_concat, Option.getD_some] at hlastValue
          rw [List.concat_eq_append, List.filterMap_append, List.filterMap_cons_some hlastValue,
            List.filterMap_nil, List.getLast?_concat, Option.getD_some]
      rw [textOf, hnames]
      dsimp only
      rw [List.getLast?_cons, Option.getD_some]
      exact readValues_range h hfirst hlastValue
        (Nat.le_of_lt (List.rel_of_pairwise_cons hsorted hlast))

end Read

end ImsStack.Media.AudioFmtpText
