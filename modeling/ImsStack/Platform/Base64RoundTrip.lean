import Mathlib.Data.List.Basic
import ImsStack.Platform.Base64

/-!
The decoder reads back what the encoder has written, unless the text ends in a line break.
-/

namespace ImsStack.Platform.Base64

/-- The four characters of three bytes. -/
def group (a b c : UInt8) : List UInt8 :=
  [encodingTable ((a >>> 2) &&& (0x3F : UInt8)), encodingTable (((a <<< 4) &&& (0x3F : UInt8)) ||| ((b >>> 4) &&& (0x0F : UInt8))),
    encodingTable (((b <<< 2) &&& (0x3F : UInt8)) ||| ((c >>> 6) &&& (0x03 : UInt8))), encodingTable (c &&& (0x3F : UInt8))]

/-- How many groups a line holds. -/
def groupsInLine : Nat := 19

/-- What the encoder writes behind the group that follows `k` groups of a line. -/
def lineBreak (bAddCrlf : Bool) (k : Nat) : List UInt8 :=
  if bAddCrlf = true ∧ k + 1 = groupsInLine then [CR, LF] else []

def nextGroup (bAddCrlf : Bool) (k : Nat) : Nat :=
  if bAddCrlf = true ∧ k + 1 = groupsInLine then 0 else k + 1

/-- The text of bytes whose first group follows `k` groups of a line. -/
def lines (bAddCrlf : Bool) : Nat → List UInt8 → List UInt8
  | _, [] => []
  | k, [a] => (group a 0 0).take 2 ++ [BASE64_PAD, BASE64_PAD] ++ lineBreak bAddCrlf k
  | k, [a, b] => (group a b 0).take 3 ++ [BASE64_PAD] ++ lineBreak bAddCrlf k
  | k, a :: b :: c :: rest =>
    group a b c ++ lineBreak bAddCrlf k ++ lines bAddCrlf (nextGroup bAddCrlf k) rest

theorem put_group {bAddCrlf : Bool} {k : Nat} (hk : bAddCrlf = true → k < groupsInLine)
    (written : List UInt8) (c0 c1 c2 c3 : UInt8) :
    ((((EncBuffer.mk written (4 * k)).put bAddCrlf c0).put bAddCrlf c1).put bAddCrlf c2).put
        bAddCrlf c3 =
      ⟨written ++ [c0, c1, c2, c3] ++ lineBreak bAddCrlf k, 4 * nextGroup bAddCrlf k⟩ := by
  cases bAddCrlf with
  | false => simp [EncBuffer.put, lineBreak, nextGroup, Nat.mul_add]
  | true =>
    have hlt := hk rfl
    unfold groupsInLine at hlt
    have h1 : 4 * k + 1 ≠ MAX_LINE_LEN := by unfold MAX_LINE_LEN; omega
    have h2 : 4 * k + 1 + 1 ≠ MAX_LINE_LEN := by unfold MAX_LINE_LEN; omega
    have h3 : 4 * k + 1 + 1 + 1 ≠ MAX_LINE_LEN := by unfold MAX_LINE_LEN; omega
    simp only [EncBuffer.put, lineBreak, nextGroup, groupsInLine, true_and, h1, h2, h3, if_false]
    by_cases hlast : k + 1 = 19
    · have h4 : 4 * k + 1 + 1 + 1 + 1 = MAX_LINE_LEN := by unfold MAX_LINE_LEN; omega
      simp [hlast, h4]
    · have h4 : 4 * k + 1 + 1 + 1 + 1 ≠ MAX_LINE_LEN := by unfold MAX_LINE_LEN; omega
      simp [hlast, h4, Nat.mul_add]

theorem nextGroup_lt {bAddCrlf : Bool} {k : Nat} (hk : bAddCrlf = true → k < groupsInLine) :
    bAddCrlf = true → nextGroup bAddCrlf k < groupsInLine := by
  intro hcrlf
  have hlt := hk hcrlf
  unfold nextGroup
  split
  · decide
  · next hlast =>
    have : k + 1 ≠ groupsInLine := fun h => hlast ⟨hcrlf, h⟩
    omega

theorem encodeLoop_eq {bAddCrlf : Bool} (pSrcData : List UInt8) {k : Nat}
    (hk : bAddCrlf = true → k < groupsInLine) (written : List UInt8) :
    (encodeLoop bAddCrlf pSrcData ⟨written, 4 * k⟩).written =
      written ++ lines bAddCrlf k pSrcData := by
  induction k, pSrcData using lines.induct bAddCrlf generalizing written with
  | case1 k => simp [encodeLoop, lines]
  | case2 k a =>
    rw [encodeLoop, put_group hk]
    simp [lines, group]
  | case3 k a b =>
    rw [encodeLoop, put_group hk]
    simp [lines, group]
  | case4 k a b c rest ih =>
    rw [encodeLoop, put_group hk, ih (nextGroup_lt hk)]
    simp [lines, group]

theorem table_inverse : ∀ n < 64, decodingTable (encodingTable (.ofNat n)) = .ofNat n ∧
    encodingTable (.ofNat n) ∉ [CR, LF, BASE64_PAD] := by
  decide +kernel

/-- A character of the alphabet stands for its six bits, and is no break and no padding. -/
theorem decodingTable_encodingTable {c : UInt8} (hc : c &&& (0x3F : UInt8) = c) :
    decodingTable (encodingTable c) = c ∧ encodingTable c ∉ [CR, LF, BASE64_PAD] := by
  have hlt : c.toNat < 64 := by
    rw [← hc, UInt8.toNat_and]
    exact Nat.lt_of_le_of_lt Nat.and_le_right (by decide)
  have hinverse := table_inverse _ hlt
  rwa [UInt8.ofNat_toNat] at hinverse

theorem and_sixBits (c : UInt8) : (c &&& (0x3F : UInt8)) &&& (0x3F : UInt8) = c &&& (0x3F : UInt8) := by
  rw [UInt8.and_assoc, UInt8.and_self]

theorem second_sixBits (a b : UInt8) :
    (((a <<< 4) &&& (0x3F : UInt8)) ||| ((b >>> 4) &&& (0x0F : UInt8))) &&& (0x3F : UInt8) =
      ((a <<< 4) &&& (0x3F : UInt8)) ||| ((b >>> 4) &&& (0x0F : UInt8)) := by
  apply UInt8.toBitVec_inj.mp
  ext i hi
  simp
  rcases i with _ | _ | _ | _ | _ | _ | _ | _ | i <;> simp
  omega

theorem third_sixBits (b c : UInt8) :
    (((b <<< 2) &&& (0x3F : UInt8)) ||| ((c >>> 6) &&& (0x03 : UInt8))) &&& (0x3F : UInt8) =
      ((b <<< 2) &&& (0x3F : UInt8)) ||| ((c >>> 6) &&& (0x03 : UInt8)) := by
  apply UInt8.toBitVec_inj.mp
  ext i hi
  simp
  rcases i with _ | _ | _ | _ | _ | _ | _ | _ | i <;> simp
  omega

theorem first_bits (a b : UInt8) :
    (((a >>> 2) &&& (0x3F : UInt8)) <<< 2) |||
      (((((a <<< 4) &&& (0x3F : UInt8)) ||| ((b >>> 4) &&& (0x0F : UInt8))) >>> 4) &&&
        (0x03 : UInt8)) = a := by
  apply UInt8.toBitVec_inj.mp
  ext i hi
  simp
  rcases i with _ | _ | _ | _ | _ | _ | _ | _ | i <;> simp
  omega

theorem second_bits (a b c : UInt8) :
    (((((a <<< 4) &&& (0x3F : UInt8)) ||| ((b >>> 4) &&& (0x0F : UInt8))) <<< 4) &&& (0xF0 : UInt8)) |||
      (((((b <<< 2) &&& (0x3F : UInt8)) ||| ((c >>> 6) &&& (0x03 : UInt8))) >>> 2) &&&
        (0x0F : UInt8)) = b := by
  apply UInt8.toBitVec_inj.mp
  ext i hi
  simp
  rcases i with _ | _ | _ | _ | _ | _ | _ | _ | i <;> simp
  omega

theorem third_bits (b c : UInt8) :
    (((((b <<< 2) &&& (0x3F : UInt8)) ||| ((c >>> 6) &&& (0x03 : UInt8))) <<< 6) &&& (0xC0 : UInt8)) |||
      (c &&& (0x3F : UInt8)) = c := by
  apply UInt8.toBitVec_inj.mp
  ext i hi
  simp
  rcases i with _ | _ | _ | _ | _ | _ | _ | _ | i <;> simp
  omega

theorem getElem?_behind (before rest : List UInt8) (i : Nat) :
    (before ++ rest)[before.length + i]? = rest[i]? := by
  rw [List.getElem?_append_right (Nat.le_add_right _ _), Nat.add_sub_cancel_left]

theorem readChar_plain {text : List UInt8} {nPos : Nat} {c : UInt8} (hchar : text[nPos]? = some c)
    (hplain : c ≠ CR ∧ c ≠ LF) : readChar text nPos = some (nPos, c) := by
  simp [readChar, skipBreak, hchar, hplain.1, hplain.2]

theorem readChar_break {text : List UInt8} {nPos : Nat} (hchar : text[nPos]? = some CR) :
    readChar text nPos = text[nPos + 2]?.map fun c => (nPos + 2, c) := by
  have hne : CR ≠ LF := by decide
  cases hnext : text[nPos + 2]? <;> simp [readChar, skipBreak, hchar, hnext, hne]

theorem readChar_none {text : List UInt8} {nPos : Nat} (hchar : text[nPos]? = none) :
    readChar text nPos = none := by
  simp [readChar, skipBreak, hchar]

/-- A character is read in the text, and not in front of where the decoder stands. -/
theorem readChar_bounds {text : List UInt8} {nPos : Nat} {read : Nat × UInt8}
    (h : readChar text nPos = some read) : nPos ≤ read.1 ∧ read.1 < text.length := by
  obtain ⟨nBehind, hskip, hread⟩ := Option.bind_eq_some_iff.mp h
  obtain ⟨c, hchar, hpair⟩ := Option.bind_eq_some_iff.mp hread
  obtain rfl := Option.some.inj hpair
  refine ⟨?_, (List.getElem?_eq_some_iff.mp hchar).1⟩
  obtain ⟨c1, -, hfirst⟩ := Option.bind_eq_some_iff.mp hskip
  obtain ⟨c2, -, hsecond⟩ := Option.bind_eq_some_iff.mp hfirst
  have hbehind := Option.some.inj hsecond
  change nPos ≤ nBehind
  split at hbehind <;> split at hbehind <;> omega

theorem decodeFourth_bounds {text written : List UInt8} {nSrcLen nPos nNext : Nat} {c8bit : UInt8}
    {round : DecRound} (h : decodeFourth text nSrcLen written c8bit nPos = some round)
    (hnext : round.nPos = some nNext) : nPos < nNext := by
  unfold decodeFourth at h
  split at h
  · obtain ⟨read, hread, h⟩ := Option.bind_eq_some_iff.mp h
    have hbounds := readChar_bounds hread
    split at h <;> obtain rfl := Option.some.inj h
    · exact absurd hnext (by simp)
    · have := Option.some.inj hnext
      omega
  · obtain rfl := Option.some.inj h
    have := Option.some.inj hnext
    omega

theorem decodeRound_bounds {text : List UInt8} {nSrcLen nPos nNext : Nat} {round : DecRound}
    (h : decodeRound text nSrcLen nPos = some round) (hnext : round.nPos = some nNext) :
    nPos < text.length ∧ nPos < nNext := by
  obtain ⟨first, hfirst, h⟩ := Option.bind_eq_some_iff.mp h
  obtain ⟨second, hsecond, h⟩ := Option.bind_eq_some_iff.mp h
  have hfirstBounds := readChar_bounds hfirst
  have hsecondBounds := readChar_bounds hsecond
  refine ⟨by omega, ?_⟩
  change decodeThird _ _ _ _ _ = _ at h
  unfold decodeThird at h
  split at h
  · obtain ⟨third, hthird, h⟩ := Option.bind_eq_some_iff.mp h
    have hthirdBounds := readChar_bounds hthird
    split at h
    · obtain rfl := Option.some.inj h
      exact absurd hnext (by simp)
    · have := decodeFourth_bounds h hnext
      omega
  · have := decodeFourth_bounds h hnext
    omega

/-- The loop ends before it has made as many rounds as there are characters left. -/
theorem decodeLoop_fuel {text : List UInt8} {nSrcLen fuel nPos : Nat}
    (hfuel : text.length ≤ nPos + fuel) :
    decodeLoop text nSrcLen (fuel + 1 + 1) nPos = decodeLoop text nSrcLen (fuel + 1) nPos := by
  induction fuel generalizing nPos with
  | zero =>
    have hnone : decodeRound text nSrcLen nPos = none := by
      rw [decodeRound, readChar_none (List.getElem?_eq_none (by omega))]
      rfl
    rw [decodeLoop, decodeLoop, hnone]
    rfl
  | succ fuel ih =>
    rw [decodeLoop, decodeLoop]
    split
    · cases hround : decodeRound text nSrcLen nPos with
      | none => rfl
      | some round =>
        obtain ⟨written, nNext⟩ := round
        cases nNext with
        | none => rfl
        | some nNext =>
          have hbounds := decodeRound_bounds hround rfl
          change (decodeLoop text nSrcLen (fuel + 1 + 1) nNext).bind _ =
            (decodeLoop text nSrcLen (fuel + 1) nNext).bind _
          rw [ih (by omega)]
    · rfl

/-- What the decoder may find in front of a group. -/
def IsBreak (gap : List UInt8) : Prop := gap = [] ∨ gap = [CR, LF]

theorem isBreak_lineBreak (bAddCrlf : Bool) (k : Nat) : IsBreak (lineBreak bAddCrlf k) := by
  unfold lineBreak
  split
  · exact .inr rfl
  · exact .inl rfl

section round

variable {before gap rest : List UInt8} {nSrcLen : Nat}

theorem readChar_gap {c : UInt8} (hgap : IsBreak gap) (hplain : c ≠ CR ∧ c ≠ LF) :
    readChar (before ++ gap ++ c :: rest) before.length =
      some (before.length + gap.length, c) := by
  rcases hgap with rfl | rfl
  · apply readChar_plain _ hplain
    simp
  · rw [readChar_break (by simp), List.append_assoc, getElem?_behind]
    rfl

theorem decodeRound_group (hgap : IsBreak gap) (a b c : UInt8) (tail : List UInt8) :
    decodeRound (before ++ gap ++ ((group a b c).take 2 ++ tail)) nSrcLen before.length =
      decodeThird (before ++ gap ++ ((group a b c).take 2 ++ tail)) nSrcLen a
        (((a <<< 4) &&& (0x3F : UInt8)) ||| ((b >>> 4) &&& (0x0F : UInt8)))
        ((before ++ gap).length + 2) := by
  obtain ⟨htable, hplain⟩ := decodingTable_encodingTable (and_sixBits (a >>> 2))
  obtain ⟨htable', hplain'⟩ := decodingTable_encodingTable (second_sixBits a b)
  simp only [List.mem_cons, List.not_mem_nil, or_false, not_or] at hplain hplain'
  have hfirst := @readChar_gap before gap
    (encodingTable (((a <<< 4) &&& (0x3F : UInt8)) ||| ((b >>> 4) &&& (0x0F : UInt8))) :: tail) _
    hgap ⟨hplain.1, hplain.2.1⟩
  have hsecond : readChar (before ++ gap ++ ((group a b c).take 2 ++ tail))
      (before.length + gap.length + 1) =
      some (before.length + gap.length + 1,
        encodingTable (((a <<< 4) &&& (0x3F : UInt8)) ||| ((b >>> 4) &&& (0x0F : UInt8)))) := by
    apply readChar_plain _ ⟨hplain'.1, hplain'.2.1⟩
    rw [← List.length_append, getElem?_behind]
    rfl
  change readChar (before ++ gap ++ ((group a b c).take 2 ++ tail)) before.length = _ at hfirst
  rw [decodeRound, hfirst]
  simp only [Option.bind_eq_bind, Option.bind_some, hsecond, htable, htable', first_bits,
    List.length_append]

theorem decodeThird_group (hsize : (before ++ gap).length + 3 ≤ nSrcLen) (a b c : UInt8)
    (tail : List UInt8) :
    decodeThird (before ++ gap ++ ((group a b c).take 3 ++ tail)) nSrcLen a
        (((a <<< 4) &&& (0x3F : UInt8)) ||| ((b >>> 4) &&& (0x0F : UInt8)))
        ((before ++ gap).length + 2) =
      decodeFourth (before ++ gap ++ ((group a b c).take 3 ++ tail)) nSrcLen [a, b]
        (((b <<< 2) &&& (0x3F : UInt8)) ||| ((c >>> 6) &&& (0x03 : UInt8)))
        ((before ++ gap).length + 3) := by
  obtain ⟨htable, hplain⟩ := decodingTable_encodingTable (third_sixBits b c)
  simp only [List.mem_cons, List.not_mem_nil, or_false, not_or] at hplain
  have hread := @readChar_plain (before ++ gap ++ ((group a b c).take 3 ++ tail))
    ((before ++ gap).length + 2) _ (by rw [getElem?_behind]; rfl) ⟨hplain.1, hplain.2.1⟩
  rw [decodeThird, if_pos (by omega), hread]
  simp only [Option.bind_eq_bind, Option.bind_some, if_neg hplain.2.2, htable, second_bits]

theorem decodeFourth_group (hsize : (before ++ gap).length + 4 ≤ nSrcLen) (a b c : UInt8)
    (tail : List UInt8) :
    decodeFourth (before ++ gap ++ (group a b c ++ tail)) nSrcLen [a, b]
        (((b <<< 2) &&& (0x3F : UInt8)) ||| ((c >>> 6) &&& (0x03 : UInt8)))
        ((before ++ gap).length + 3) =
      some ⟨[a, b, c], some ((before ++ gap).length + 4)⟩ := by
  obtain ⟨htable, hplain⟩ := decodingTable_encodingTable (and_sixBits c)
  simp only [List.mem_cons, List.not_mem_nil, or_false, not_or] at hplain
  have hread := @readChar_plain (before ++ gap ++ (group a b c ++ tail))
    ((before ++ gap).length + 3) _ (by rw [getElem?_behind]; rfl) ⟨hplain.1, hplain.2.1⟩
  rw [decodeFourth, if_pos (by omega), hread]
  simp only [Option.bind_eq_bind, Option.bind_some, if_neg hplain.2.2, htable, third_bits]
  rfl

theorem padding_plain : BASE64_PAD ≠ CR ∧ BASE64_PAD ≠ LF := by decide

theorem decodeThird_padding (hsize : (before ++ gap).length + 3 ≤ nSrcLen) (a b c c8bit : UInt8)
    (tail : List UInt8) :
    decodeThird (before ++ gap ++ ((group a b c).take 2 ++ BASE64_PAD :: tail)) nSrcLen a c8bit
        ((before ++ gap).length + 2) = some ⟨[a], none⟩ := by
  have hread := @readChar_plain (before ++ gap ++ ((group a b c).take 2 ++ BASE64_PAD :: tail))
    ((before ++ gap).length + 2) _ (by rw [getElem?_behind]; rfl) padding_plain
  rw [decodeThird, if_pos (by omega), hread]
  rfl

theorem decodeFourth_padding (hsize : (before ++ gap).length + 4 ≤ nSrcLen) (a b c c8bit : UInt8)
    (written tail : List UInt8) :
    decodeFourth (before ++ gap ++ ((group a b c).take 3 ++ BASE64_PAD :: tail)) nSrcLen written
        c8bit ((before ++ gap).length + 3) = some ⟨written, none⟩ := by
  have hread := @readChar_plain (before ++ gap ++ ((group a b c).take 3 ++ BASE64_PAD :: tail))
    ((before ++ gap).length + 3) _ (by rw [getElem?_behind]; rfl) padding_plain
  rw [decodeFourth, if_pos (by omega), hread]
  rfl

end round

theorem padded_round {before gap : List UInt8} (hgap : IsBreak gap) {nSrcLen : Nat} (a : UInt8)
    (tail : List UInt8) (hsize : (before ++ gap).length + 4 ≤ nSrcLen) :
    decodeRound (before ++ gap ++ ((group a 0 0).take 2 ++ BASE64_PAD :: tail)) nSrcLen
      before.length = some ⟨[a], none⟩ := by
  rw [decodeRound_group hgap, decodeThird_padding (by omega)]

theorem padded_round_two {before gap : List UInt8} (hgap : IsBreak gap) {nSrcLen : Nat} (a b : UInt8)
    (tail : List UInt8) (hsize : (before ++ gap).length + 4 ≤ nSrcLen) :
    decodeRound (before ++ gap ++ ((group a b 0).take 3 ++ BASE64_PAD :: tail)) nSrcLen
      before.length = some ⟨[a, b], none⟩ := by
  have hround := @decodeRound_group before gap nSrcLen hgap a b 0
    (encodingTable (((b <<< 2) &&& (0x3F : UInt8)) ||| (((0 : UInt8) >>> 6) &&& (0x03 : UInt8))) ::
      BASE64_PAD :: tail)
  exact hround.trans ((decodeThird_group (by omega) a b 0 (BASE64_PAD :: tail)).trans
    (decodeFourth_padding hsize a b 0 _ _ tail))

theorem full_round {before gap : List UInt8} (hgap : IsBreak gap) {nSrcLen : Nat} (a b c : UInt8)
    (tail : List UInt8) (hsize : (before ++ gap).length + 4 ≤ nSrcLen) :
    decodeRound (before ++ gap ++ (group a b c ++ tail)) nSrcLen before.length =
      some ⟨[a, b, c], some ((before ++ gap).length + 4)⟩ := by
  have hround := @decodeRound_group before gap nSrcLen hgap a b c
    (encodingTable (((b <<< 2) &&& (0x3F : UInt8)) ||| ((c >>> 6) &&& (0x03 : UInt8))) ::
      encodingTable (c &&& (0x3F : UInt8)) :: tail)
  exact hround.trans ((decodeThird_group (by omega) a b c
    (encodingTable (c &&& (0x3F : UInt8)) :: tail)).trans (decodeFourth_group hsize a b c tail))

/-- The last line of the text is full. -/
def EndsInBreak (bAddCrlf : Bool) (k : Nat) (pSrcData : List UInt8) : Prop :=
  bAddCrlf = true ∧ (k + pSrcData.length / 3) % groupsInLine = 0

instance (bAddCrlf : Bool) (k : Nat) (pSrcData : List UInt8) :
    Decidable (EndsInBreak bAddCrlf k pSrcData) := inferInstanceAs (Decidable (_ ∧ _))

theorem endsInBreak_single {bAddCrlf : Bool} {k : Nat} (hk : bAddCrlf = true → k < groupsInLine)
    (a b c : UInt8) : EndsInBreak bAddCrlf k [a, b, c] ↔ lineBreak bAddCrlf k ≠ [] := by
  unfold EndsInBreak lineBreak
  cases bAddCrlf with
  | false => simp
  | true =>
    have hlt := hk rfl
    unfold groupsInLine at hlt ⊢
    simp only [true_and, List.length_cons, List.length_nil]
    split <;> simp <;> omega

theorem endsInBreak_cons {bAddCrlf : Bool} {k : Nat} (a b c : UInt8) (rest : List UInt8) :
    EndsInBreak bAddCrlf k (a :: b :: c :: rest) ↔
      EndsInBreak bAddCrlf (nextGroup bAddCrlf k) rest := by
  unfold EndsInBreak nextGroup
  cases bAddCrlf with
  | false => simp
  | true =>
    have hcount : (rest.length + 1 + 1 + 1) / 3 = rest.length / 3 + 1 := by omega
    unfold groupsInLine
    simp only [true_and, List.length_cons, hcount]
    split <;> omega

theorem decodeLoop_leaves {text written : List UInt8} {nSrcLen fuel nPos : Nat} (hlt : nPos < nSrcLen)
    (hround : decodeRound text nSrcLen nPos = some ⟨written, none⟩) :
    decodeLoop text nSrcLen (fuel + 1) nPos = some written := by
  rw [decodeLoop, if_pos hlt, hround]
  rfl

theorem decodeLoop_next {text written : List UInt8} {nSrcLen fuel nPos nNext : Nat}
    (hlt : nPos < nSrcLen) (hround : decodeRound text nSrcLen nPos = some ⟨written, some nNext⟩) :
    decodeLoop text nSrcLen (fuel + 1) nPos =
      (decodeLoop text nSrcLen fuel nNext).map (written ++ ·) := by
  rw [decodeLoop, if_pos hlt, hround]
  change (decodeLoop text nSrcLen fuel nNext).bind _ = _
  cases decodeLoop text nSrcLen fuel nNext <;> rfl

theorem decodeLoop_none {text : List UInt8} {nSrcLen fuel nPos : Nat} (hlt : nPos < nSrcLen)
    (hread : readChar text nPos = none) : decodeLoop text nSrcLen (fuel + 1) nPos = none := by
  rw [decodeLoop, if_pos hlt, decodeRound, hread]
  rfl

/-- What the decoder makes of the text of `pSrcData` behind a gap: all of its bytes if it is padded,
or else if the decoder stops at the end of the text and no line break stands there. -/
theorem decodeLoop_lines {bAddCrlf : Bool} (pSrcData : List UInt8) {k : Nat}
    (hk : bAddCrlf = true → k < groupsInLine) {before gap : List UInt8} (hgap : IsBreak gap)
    {nSrcLen fuel : Nat} (hsize : (before ++ gap ++ lines bAddCrlf k pSrcData).length ≤ nSrcLen)
    (hfuel : pSrcData.length < fuel) :
    decodeLoop (before ++ gap ++ lines bAddCrlf k pSrcData) nSrcLen fuel before.length =
      if pSrcData.length % 3 ≠ 0 ∨
          (before ++ gap ++ lines bAddCrlf k pSrcData).length = nSrcLen ∧
            (if pSrcData = [] then gap = [] else ¬EndsInBreak bAddCrlf k pSrcData)
      then some pSrcData else none := by
  obtain ⟨fuel, rfl⟩ : ∃ fuel', fuel = fuel' + 1 := ⟨fuel - 1, by omega⟩
  induction k, pSrcData using lines.induct bAddCrlf generalizing before gap fuel with
  | case1 k =>
    rw [lines, List.append_nil] at hsize ⊢
    simp only [List.length_nil, Nat.zero_mod, ne_eq, not_true, false_or, if_true]
    rcases hgap with rfl | rfl
    · rw [List.append_nil] at hsize ⊢
      rcases Nat.lt_or_ge before.length nSrcLen with hlt | hge
      · rw [decodeLoop_none hlt (readChar_none (List.getElem?_eq_none (Nat.le_refl _))),
          if_neg (by omega)]
      · rw [decodeLoop, if_neg (by omega), if_pos ⟨by omega, rfl⟩]
        rfl
    · have hread : readChar (before ++ [CR, LF]) before.length = none := by
        rw [readChar_break (by simp), getElem?_behind]
        rfl
      rw [List.length_append] at hsize
      simp only [List.length_cons, List.length_nil] at hsize
      rw [decodeLoop_none (by omega) hread, if_neg (by simp)]
  | case2 k a =>
    have htext : lines bAddCrlf k [a] =
        (group a 0 0).take 2 ++ BASE64_PAD :: BASE64_PAD :: lineBreak bAddCrlf k := by
      simp [lines]
    have hlength : 4 ≤ (lines bAddCrlf k [a]).length := by
      simp [htext, group]
    rw [List.length_append] at hsize
    have hround := @padded_round before gap hgap nSrcLen a (BASE64_PAD :: lineBreak bAddCrlf k)
      (by omega)
    rw [List.length_append] at hsize
    rw [if_pos (.inl (by simp)), htext, decodeLoop_leaves (by omega) hround]
  | case3 k a b =>
    have htext : lines bAddCrlf k [a, b] =
        (group a b 0).take 3 ++ BASE64_PAD :: lineBreak bAddCrlf k := by
      simp [lines]
    have hlength : 4 ≤ (lines bAddCrlf k [a, b]).length := by
      simp [htext, group]
    rw [List.length_append] at hsize
    have hround := @padded_round_two before gap hgap nSrcLen a b (lineBreak bAddCrlf k) (by omega)
    rw [List.length_append] at hsize
    rw [if_pos (.inl (by simp)), htext, decodeLoop_leaves (by omega) hround]
  | case4 k a b c rest ih =>
    have htext : lines bAddCrlf k (a :: b :: c :: rest) =
        group a b c ++ (lineBreak bAddCrlf k ++ lines bAddCrlf (nextGroup bAddCrlf k) rest) := by
      rw [lines, List.append_assoc]
    have hwhole : before ++ gap ++ lines bAddCrlf k (a :: b :: c :: rest) =
        (before ++ gap ++ group a b c) ++ lineBreak bAddCrlf k ++
          lines bAddCrlf (nextGroup bAddCrlf k) rest := by
      rw [htext]
      simp only [List.append_assoc]
    have hlength : 4 ≤ (lines bAddCrlf k (a :: b :: c :: rest)).length := by
      simp [htext, group]
    have hplace : (before ++ gap).length + 4 = (before ++ gap ++ group a b c).length :=
      (@List.length_append _ (before ++ gap) (group a b c)).symm
    have hfit : (before ++ gap).length + 4 ≤ nSrcLen := by
      rw [List.length_append] at hsize
      omega
    have hround := full_round hgap a b c
      (lineBreak bAddCrlf k ++ lines bAddCrlf (nextGroup bAddCrlf k) rest) hfit
    rw [← htext, hplace] at hround
    rw [List.length_cons, List.length_cons, List.length_cons] at hfuel
    obtain ⟨fuel, rfl⟩ : ∃ fuel', fuel = fuel' + 1 := ⟨fuel - 1, by omega⟩
    rw [decodeLoop_next (by rw [List.length_append] at hfit; omega) hround, hwhole,
      ih (nextGroup_lt hk) (isBreak_lineBreak bAddCrlf k) (by rw [← hwhole]; exact hsize) fuel
        (by omega)]
    have hmod : (a :: b :: c :: rest).length % 3 = rest.length % 3 := by
      simp only [List.length_cons]
      omega
    have hend : (if rest = [] then lineBreak bAddCrlf k = []
          else ¬EndsInBreak bAddCrlf (nextGroup bAddCrlf k) rest) ↔
        ¬EndsInBreak bAddCrlf k (a :: b :: c :: rest) := by
      split
      · next hempty => rw [hempty, endsInBreak_single hk, ne_eq, not_not]
      · rw [endsInBreak_cons]
    simp only [hmod, hend, reduceCtorEq, if_false]
    split <;> rfl

/-- The length of the text of `n` bytes. -/
def textLength (n : Nat) (bAddCrlf : Bool) : Nat :=
  4 * ((n + 2) / 3) + if bAddCrlf = true then 2 * ((n + 2) / 3 / groupsInLine) else 0

theorem length_lineBreak {bAddCrlf : Bool} {k : Nat} (hk : bAddCrlf = true → k < groupsInLine)
    (m : Nat) :
    (lineBreak bAddCrlf k).length +
        (if bAddCrlf = true then 2 * ((nextGroup bAddCrlf k + m) / groupsInLine) else 0) =
      if bAddCrlf = true then 2 * ((k + 1 + m) / groupsInLine) else 0 := by
  unfold lineBreak nextGroup
  cases bAddCrlf with
  | false => rfl
  | true =>
    have hlt := hk rfl
    unfold groupsInLine at hlt ⊢
    simp only [true_and, if_true]
    split
    · rw [List.length_cons, List.length_singleton]
      omega
    · rw [List.length_nil, Nat.zero_add]

theorem length_lineBreak_last {bAddCrlf : Bool} {k : Nat}
    (hk : bAddCrlf = true → k < groupsInLine) :
    (lineBreak bAddCrlf k).length =
      if bAddCrlf = true then 2 * ((k + 1) / groupsInLine) else 0 := by
  unfold lineBreak
  cases bAddCrlf with
  | false => rfl
  | true =>
    have hlt := hk rfl
    unfold groupsInLine at hlt ⊢
    simp only [true_and, if_true]
    split
    · rw [List.length_cons, List.length_singleton]
      omega
    · rw [List.length_nil]
      omega

theorem length_lines {bAddCrlf : Bool} (pSrcData : List UInt8) {k : Nat}
    (hk : bAddCrlf = true → k < groupsInLine) :
    (lines bAddCrlf k pSrcData).length = 4 * ((pSrcData.length + 2) / 3) +
      if bAddCrlf = true then 2 * ((k + (pSrcData.length + 2) / 3) / groupsInLine) else 0 := by
  induction k, pSrcData using lines.induct bAddCrlf with
  | case1 k =>
    cases bAddCrlf with
    | false => rfl
    | true =>
      have hlt := hk rfl
      unfold groupsInLine at hlt ⊢
      simp only [lines, List.length_nil, if_true]
      omega
  | case2 k a =>
    have hgroup : (lines bAddCrlf k [a]).length = 4 + (lineBreak bAddCrlf k).length := by
      rw [lines, List.length_append]
      rfl
    simp only [hgroup, length_lineBreak_last hk, List.length_cons, List.length_nil, Nat.zero_add,
      Nat.reduceAdd, Nat.reduceDiv, Nat.mul_one]
  | case3 k a b =>
    have hgroup : (lines bAddCrlf k [a, b]).length = 4 + (lineBreak bAddCrlf k).length := by
      rw [lines, List.length_append]
      rfl
    simp only [hgroup, length_lineBreak_last hk, List.length_cons, List.length_nil, Nat.zero_add,
      Nat.reduceAdd, Nat.reduceDiv, Nat.mul_one]
  | case4 k a b c rest ih =>
    have hcount : (rest.length + 1 + 1 + 1 + 2) / 3 = 1 + (rest.length + 2) / 3 := by omega
    have hbreak := length_lineBreak hk ((rest.length + 2) / 3)
    have hgroup : (group a b c).length = 4 := rfl
    rw [lines, List.length_append, List.length_append, ih (nextGroup_lt hk), hgroup,
      List.length_cons, List.length_cons, List.length_cons, hcount, ← Nat.add_assoc k, ← hbreak]
    omega

/-- Decoding the text that was encoded, with the length that the encoder returned, yields the bytes
and their number, and reads in the text only. -/
def RoundTrips (pSrcData : List UInt8) (bAddCrlf : Bool) : Prop :=
  decode (encode pSrcData bAddCrlf).1 (toSize (encode pSrcData bAddCrlf).2) =
    some (pSrcData, (pSrcData.length : Int))

theorem encode_eq (pSrcData : List UInt8) (bAddCrlf : Bool) :
    encode pSrcData bAddCrlf =
      (lines bAddCrlf 0 pSrcData, longToInt (textLength pSrcData.length bAddCrlf)) := by
  have hk : bAddCrlf = true → 0 < groupsInLine := fun _ => by decide
  have htext := encodeLoop_eq pSrcData hk []
  have hlength := length_lines pSrcData hk
  rw [Nat.zero_add] at hlength
  rw [List.nil_append] at htext
  rw [encode]
  change (_, _) = _
  rw [show (EncBuffer.mk [] 0) = ⟨[], 4 * 0⟩ from rfl, htext, hlength]
  rfl

theorem longToInt_eq_iff (n : Nat) : longToInt n = n ↔ n < 0x80000000 := by
  unfold longToInt
  rw [Int.bmod_def]
  split <;> omega

/-- The length of the text comes back as it was while it fits, and larger otherwise. -/
theorem toSize_longToInt {l : Nat} (hl : l < 0x100000000) :
    l ≤ toSize (longToInt l) ∧ (l = toSize (longToInt l) ↔ l < 0x80000000) := by
  unfold toSize longToInt
  rw [Int.bmod_def]
  split <;> omega

theorem decodeLoop_whole (pSrcData : List UInt8) (bAddCrlf : Bool) {nSrcLen : Nat}
    (hsize : textLength pSrcData.length bAddCrlf ≤ nSrcLen) :
    decodeLoop (lines bAddCrlf 0 pSrcData) nSrcLen ((lines bAddCrlf 0 pSrcData).length + 1) 0 =
      if pSrcData.length % 3 ≠ 0 ∨ textLength pSrcData.length bAddCrlf = nSrcLen ∧
          ¬(bAddCrlf = true ∧ pSrcData ≠ [] ∧ pSrcData.length % 57 = 0)
      then some pSrcData else none := by
  have hk : bAddCrlf = true → 0 < groupsInLine := fun _ => by decide
  have hlength := length_lines pSrcData hk
  rw [Nat.zero_add] at hlength
  change _ = textLength pSrcData.length bAddCrlf at hlength
  have hfuel : pSrcData.length < (lines bAddCrlf 0 pSrcData).length + 1 := by
    rw [hlength, textLength]
    omega
  have hloop := @decodeLoop_lines bAddCrlf pSrcData 0 hk [] [] (.inl rfl) nSrcLen _
    (by rw [List.append_nil, List.nil_append, hlength]; exact hsize) hfuel
  refine hloop.trans (if_congr ?_ rfl rfl)
  rw [List.append_nil, List.nil_append, hlength]
  split
  · next hempty => simp [hempty]
  · next hne =>
    have hcount : pSrcData.length % 3 = 0 →
        (pSrcData.length / 3 % 19 = 0 ↔ pSrcData.length % 57 = 0) := by omega
    by_cases hpadded : pSrcData.length % 3 = 0
    · simp [EndsInBreak, groupsInLine, hne, hcount hpadded]
    · simp [hpadded]

/-- The round trip holds exactly when the number of bytes fits in the returned length and the text
is padded, or its length fits as well and it does not end in a line break. -/
theorem roundTrips_iff (pSrcData : List UInt8) (bAddCrlf : Bool) :
    RoundTrips pSrcData bAddCrlf ↔
      pSrcData.length < 0x80000000 ∧
        (pSrcData.length % 3 ≠ 0 ∨
          textLength pSrcData.length bAddCrlf < 0x80000000 ∧
            ¬(bAddCrlf = true ∧ pSrcData ≠ [] ∧ pSrcData.length % 57 = 0)) := by
  unfold RoundTrips
  rw [encode_eq, decode]
  by_cases hbytes : pSrcData.length < 0x80000000
  · have hreturned := (longToInt_eq_iff _).mpr hbytes
    have hlt : textLength pSrcData.length bAddCrlf < 0x100000000 := by
      unfold textLength groupsInLine
      split <;> omega
    obtain ⟨hsize, hsame⟩ := toSize_longToInt hlt
    rw [decodeLoop_whole pSrcData bAddCrlf hsize, ← hsame]
    constructor
    · intro h
      refine ⟨hbytes, ?_⟩
      by_contra hnot
      rw [if_neg hnot] at h
      exact absurd h (by simp)
    · rintro ⟨-, hholds⟩
      rw [if_pos hholds]
      change some (pSrcData, longToInt pSrcData.length) = _
      rw [hreturned]
  · constructor
    · intro h
      obtain ⟨pDest, -, hdest⟩ := Option.bind_eq_some_iff.mp h
      obtain ⟨rfl, hreturned⟩ := Prod.mk.inj (Option.some.inj hdest)
      exact absurd ((longToInt_eq_iff _).mp hreturned) hbytes
    · rintro ⟨hfits, -⟩
      exact absurd hfits hbytes

/-- The text of 57 bytes fills a line, and the decoder reads behind the break at its end. -/
theorem decode_full_line :
    ¬RoundTrips (List.replicate 57 0) true ∧
      (encode (List.replicate 57 0) true).1 = List.replicate 76 0x41 ++ [CR, LF] ∧
      decode ((encode (List.replicate 57 0) true).1 ++ [0]) 78 = none := by
  have htext : encode (List.replicate 57 0) true = (List.replicate 76 0x41 ++ [CR, LF], 78) := by
    decide +kernel
  have hread : decode (List.replicate 76 0x41 ++ [CR, LF]) 78 = none := by decide +kernel
  refine ⟨?_, congrArg Prod.fst htext, ?_⟩
  · unfold RoundTrips
    rw [htext]
    change decode (List.replicate 76 0x41 ++ [CR, LF]) 78 ≠ _
    rw [hread]
    simp
  · rw [htext]
    decide +kernel

end ImsStack.Platform.Base64
