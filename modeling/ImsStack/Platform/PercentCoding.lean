import ImsStack.Platform.TextParser
import Mathlib.Tactic.ByContra

/-!
When the percent coding of `TextParser` and `Feature` gives a text back, and when their
decoders read the escapes of a text as they are meant.
-/

namespace ImsStack.Platform.TextParser

/-- The octet that two hexadecimal digits name. -/
def escapedOctet (a b : UInt8) : UInt8 := digitValue a * 16 + digitValue b

/-- The text begins with `%` and two hexadecimal digits. -/
def BeginsEscape : Octets → Prop
  | c :: a :: b :: _ => c = charPercent ∧ isHexCharacter a = true ∧ isHexCharacter b = true
  | _ => False

/-- Every escape from the left replaced by its octet, every other character as it is. -/
def decodeEscapes : Octets → Octets
  | [] => []
  | c :: a :: b :: rest =>
    if c = charPercent ∧ isHexCharacter a = true ∧ isHexCharacter b = true then
      escapedOctet a b :: decodeEscapes rest
    else c :: decodeEscapes (a :: b :: rest)
  | c :: rest => c :: decodeEscapes rest

/-- Read in blocks from the left, the text has no escape of an octet that comes out
negative, and no escape hidden behind a `%` that begins none. -/
inductive Readable (signed : Bool) : Octets → Prop where
  | nil : Readable signed []
  | plain {c : UInt8} {rest : Octets} : c ≠ charPercent → Readable signed rest →
      Readable signed (c :: rest)
  | escape {a b : UInt8} {rest : Octets} : isHexCharacter a = true → isHexCharacter b = true →
      (signed = true → escapedOctet a b < 0x80) → Readable signed rest →
      Readable signed (charPercent :: a :: b :: rest)
  | bare {a b : UInt8} {rest : Octets} : ¬ BeginsEscape (charPercent :: a :: b :: rest) →
      ¬ BeginsEscape (a :: b :: rest) → ¬ BeginsEscape (b :: rest) → Readable signed rest →
      Readable signed (charPercent :: a :: b :: rest)
  | last : Readable signed [charPercent]
  | beforeLast (a : UInt8) : Readable signed [charPercent, a]

/-- An octet is written as itself, or as `%` and two hexadecimal digits. -/
def IsWritten (c : UInt8) (piece : Octets) : Prop :=
  piece = [c] ∨ ∃ a b, isHexCharacter a = true ∧ isHexCharacter b = true ∧
    piece = [charPercent, a, b]

section Octets

theorem forall_octet {P : UInt8 → Prop} (h : ∀ n, n < 256 → P (.ofNat n)) (c : UInt8) : P c := by
  have hc := h c.toNat (UInt8.toNat_lt_size c)
  rw [UInt8.ofNat_toNat] at hc
  exact hc

theorem charToHexString_plain : ∀ c : UInt8,
    charToHexString false c = [hexDigit (c.toNat / 16), hexDigit (c.toNat % 16)] :=
  forall_octet (by decide +kernel)

theorem charToHexString_signed : ∀ c : UInt8,
    charToHexString true c =
      if 0x80 ≤ c then
        List.replicate 6 (hexDigit 15) ++ [hexDigit (c.toNat / 16), hexDigit (c.toNat % 16)]
      else [hexDigit (c.toNat / 16), hexDigit (c.toNat % 16)] :=
  forall_octet (by decide +kernel)

theorem hexDigits_octet : ∀ c : UInt8,
    isHexCharacter (hexDigit (c.toNat / 16)) = true ∧
      isHexCharacter (hexDigit (c.toNat % 16)) = true ∧
      escapedOctet (hexDigit (c.toNat / 16)) (hexDigit (c.toNat % 16)) = c :=
  forall_octet (by decide +kernel)

theorem toSInt32_nonneg {signed : Bool} {c : UInt8} (h : signed = true → c < 0x80) :
    toSInt32 signed c = c.toNat := by
  unfold toSInt32
  refine if_neg ?_
  rintro ⟨hsigned, hle⟩
  exact absurd (h hsigned) (UInt8.not_lt.mpr hle)

theorem toSInt32_neg {c : UInt8} (h : 0x80 ≤ c) : toSInt32 true c < 0 := by
  unfold toSInt32
  rw [if_pos ⟨rfl, h⟩]
  have hlt := UInt8.toNat_lt_size c
  change c.toNat < 256 at hlt
  omega

theorem ne_charPercent_of_isHexCharacter {c : UInt8} (h : isHexCharacter c = true) :
    c ≠ charPercent := by
  rintro rfl
  exact absurd h (by decide)

end Octets

section Pieces

variable {signed : Bool} {a b : UInt8}

theorem hexStringToChar_pair :
    hexStringToChar signed [a, b] = hexDigitsToChar signed a b := rfl

theorem decodedPiece_escape (ha : isHexCharacter a = true) (hb : isHexCharacter b = true)
    (h : signed = true → escapedOctet a b < 0x80) :
    decodedPiece signed [a, b] = [escapedOctet a b] := by
  have hchar : hexStringToChar signed [a, b] = ((escapedOctet a b).toNat : Int) := by
    rw [hexStringToChar_pair, hexDigitsToChar, ha, hb]
    exact toSInt32_nonneg h
  have hlt := UInt8.toNat_lt_size (escapedOctet a b)
  change (escapedOctet a b).toNat < 256 at hlt
  unfold decodedPiece
  rw [hchar, if_neg (by omega), Int.toNat_natCast, UInt8.ofNat_toNat]

theorem decodedPiece_negative (ha : isHexCharacter a = true) (hb : isHexCharacter b = true)
    (h : 0x80 ≤ escapedOctet a b) : decodedPiece true [a, b] = [charPercent, a, b] := by
  have hchar : hexStringToChar true [a, b] < 0 := by
    rw [hexStringToChar_pair, hexDigitsToChar, ha, hb]
    exact toSInt32_neg h
  unfold decodedPiece
  rw [if_pos (Or.inl hchar)]

theorem decodedPiece_bare (h : ¬ (isHexCharacter a = true ∧ isHexCharacter b = true)) :
    decodedPiece signed [a, b] = [charPercent, a, b] := by
  have hchar : hexStringToChar signed [a, b] = -1 := by
    rw [hexStringToChar_pair, hexDigitsToChar]
    cases ha : isHexCharacter a with
    | false => rfl
    | true =>
      cases hb : isHexCharacter b with
      | false => rfl
      | true => exact absurd ⟨ha, hb⟩ h
  unfold decodedPiece
  rw [hchar, if_pos (Or.inl (by decide))]

end Pieces

section Loop

variable {signed : Bool} {c a b : UInt8} {rest : Octets}

theorem decodingLoop_plain (hc : c ≠ charPercent) :
    decodingLoop signed 0 (c :: rest) = c :: decodingLoop signed 0 rest := by
  rw [decodingLoop, if_pos hc]

theorem decodingLoop_percent :
    decodingLoop signed 0 (charPercent :: a :: b :: rest) =
      decodedPiece signed [a, b] ++ decodingLoop signed 0 rest := by
  rw [decodingLoop, if_neg (not_not_intro rfl)]
  rfl

theorem decodingLoop_of_not_mem {t : Octets} (h : charPercent ∉ t) :
    decodingLoop signed 0 t = t := by
  induction t with
  | nil => rfl
  | cons c rest ih =>
    obtain ⟨hc, hrest⟩ := not_or.mp (mt List.mem_cons.mpr h)
    rw [decodingLoop_plain (Ne.symm hc), ih hrest]

theorem doPercentDecoding_eq (t : Octets) :
    doPercentDecoding signed t = decodingLoop signed 0 t := by
  unfold doPercentDecoding
  by_cases h : charPercent ∈ t
  · rw [if_neg]
    rw [List.contains_iff_mem.mpr h]
    exact Bool.false_ne_true
  · have hcontains : t.contains charPercent = false := by
      rw [List.contains_eq_mem]
      exact decide_eq_false h
    rw [hcontains, decodingLoop_of_not_mem h]
    rfl

theorem decodeEscapes_plain (h : ¬ BeginsEscape (c :: rest)) :
    decodeEscapes (c :: rest) = c :: decodeEscapes rest := by
  rcases rest with - | ⟨x, - | ⟨y, others⟩⟩
  · rfl
  · rfl
  · rw [decodeEscapes]
    exact if_neg h

theorem decodeEscapes_escape (ha : isHexCharacter a = true) (hb : isHexCharacter b = true) :
    decodeEscapes (charPercent :: a :: b :: rest) =
      escapedOctet a b :: decodeEscapes rest := by
  rw [decodeEscapes, if_pos ⟨rfl, ha, hb⟩]

theorem BeginsEscape.exists_tail (h : BeginsEscape (c :: rest)) :
    c = charPercent ∧ ∃ a b others, rest = a :: b :: others ∧ isHexCharacter a = true ∧
      isHexCharacter b = true := by
  rcases rest with - | ⟨a, - | ⟨b, others⟩⟩
  · exact False.elim h
  · exact False.elim h
  · exact ⟨h.1, a, b, others, rfl, h.2.1, h.2.2⟩

theorem not_beginsEscape (hc : c ≠ charPercent) : ¬ BeginsEscape (c :: rest) :=
  fun h => hc h.exists_tail.1

theorem decodedPiece_of_not_beginsEscape
    (h : ¬ BeginsEscape (charPercent :: a :: b :: rest)) :
    decodedPiece signed [a, b] = [charPercent, a, b] :=
  decodedPiece_bare fun hdigits => h ⟨rfl, hdigits⟩

end Loop

section Decoding

variable {signed : Bool} {t : Octets}

theorem decodingLoop_digit {a : UInt8} {rest : Octets} (ha : isHexCharacter a = true) :
    decodingLoop signed 0 (a :: rest) = a :: decodingLoop signed 0 rest :=
  decodingLoop_plain (ne_charPercent_of_isHexCharacter ha)

theorem decodingLoop_digits {digits rest : Octets}
    (h : ∀ d ∈ digits, isHexCharacter d = true) :
    decodingLoop signed 0 (digits ++ rest) = digits ++ decodingLoop signed 0 rest := by
  induction digits with
  | nil => rfl
  | cons d digits ih =>
    rw [List.cons_append, decodingLoop_digit (h d List.mem_cons_self),
      ih fun x hx => h x (List.mem_cons_of_mem d hx)]
    rfl

theorem Readable.decodingLoop_eq (h : Readable signed t) :
    decodingLoop signed 0 t = decodeEscapes t := by
  induction h with
  | nil => rfl
  | plain hc _ ih =>
    rw [decodingLoop_plain hc, decodeEscapes_plain (not_beginsEscape hc), ih]
  | escape ha hb hvalue _ ih =>
    rw [decodingLoop_percent, decodedPiece_escape ha hb hvalue, decodeEscapes_escape ha hb, ih]
    rfl
  | bare hbare ha hb _ ih =>
    rw [decodingLoop_percent, decodedPiece_of_not_beginsEscape hbare, decodeEscapes_plain hbare,
      decodeEscapes_plain ha, decodeEscapes_plain hb, ih]
    rfl
  | last => rfl
  | beforeLast a => rfl

/-- The block at a `%` that begins no escape, while the rest is read without loss of
escapes or not. -/
theorem bare_cases {a b : UInt8} {rest : Octets}
    (hbare : ¬ BeginsEscape (charPercent :: a :: b :: rest))
    (ih : ∀ others : Octets, others.length ≤ rest.length → Readable signed others ∨
      (decodeEscapes others).length < (decodingLoop signed 0 others).length)
    (hle : ∀ others : Octets, others.length ≤ rest.length →
      (decodeEscapes others).length ≤ (decodingLoop signed 0 others).length) :
    Readable signed (charPercent :: a :: b :: rest) ∨
      (decodeEscapes (charPercent :: a :: b :: rest)).length <
        (decodingLoop signed 0 (charPercent :: a :: b :: rest)).length := by
  rw [decodingLoop_percent, decodedPiece_of_not_beginsEscape hbare, decodeEscapes_plain hbare]
  by_cases ha : BeginsEscape (a :: b :: rest)
  · -- the escape begins at the first character that is passed over
    obtain ⟨rfl, x, y, others, heq, hx, hy⟩ := ha.exists_tail
    obtain ⟨rfl, rfl⟩ := List.cons.inj heq
    have hothers := hle others (Nat.le_succ _)
    rw [decodeEscapes_escape hx hy]
    rw [decodingLoop_digit hy]
    simp only [List.length_append, List.length_cons, List.length_nil]
    exact Or.inr (by omega)
  · rw [decodeEscapes_plain ha]
    by_cases hb : BeginsEscape (b :: rest)
    · -- the escape begins at the second one
      obtain ⟨rfl, x, y, others, rfl, hx, hy⟩ := hb.exists_tail
      have hothers := hle others (Nat.le_trans (Nat.le_succ _) (Nat.le_succ _))
      rw [decodeEscapes_escape hx hy]
      rw [decodingLoop_digit hx, decodingLoop_digit hy]
      simp only [List.length_append, List.length_cons, List.length_nil]
      exact Or.inr (by omega)
    · rw [decodeEscapes_plain hb]
      rcases ih rest (Nat.le_refl _) with hrest | hrest
      · exact Or.inl (.bare hbare ha hb hrest)
      · simp only [List.length_append, List.length_cons, List.length_nil]
        exact Or.inr (by omega)

theorem readable_or_longer (n : Nat) :
    ∀ t : Octets, t.length ≤ n → Readable signed t ∨
      (decodeEscapes t).length < (decodingLoop signed 0 t).length := by
  induction n with
  | zero =>
    intro t ht
    rw [List.length_eq_zero_iff.mp (Nat.le_zero.mp ht)]
    exact Or.inl .nil
  | succ n ih =>
    have hle (t : Octets) (ht : t.length ≤ n) :
        (decodeEscapes t).length ≤ (decodingLoop signed 0 t).length := by
      rcases ih t ht with h | h
      · exact Nat.le_of_eq (congrArg List.length h.decodingLoop_eq.symm)
      · exact Nat.le_of_lt h
    intro t ht
    rcases t with - | ⟨c, rest⟩
    · exact Or.inl .nil
    rw [List.length_cons] at ht
    by_cases hc : c = charPercent
    · rw [hc]
      rcases rest with - | ⟨a, - | ⟨b, rest⟩⟩
      · exact Or.inl .last
      · exact Or.inl (.beforeLast a)
      · simp only [List.length_cons] at ht
        by_cases hbare : BeginsEscape (charPercent :: a :: b :: rest)
        · obtain ⟨-, ha, hb⟩ := hbare
          have hrest := hle rest (by omega)
          rw [decodingLoop_percent, decodeEscapes_escape ha hb]
          by_cases hvalue : signed = true → escapedOctet a b < 0x80
          · rw [decodedPiece_escape ha hb hvalue]
            rcases ih rest (by omega) with h | h
            · exact Or.inl (.escape ha hb hvalue h)
            · simp only [List.length_append, List.length_cons, List.length_nil]
              exact Or.inr (by omega)
          · obtain ⟨rfl, hnot⟩ := Classical.not_imp.mp hvalue
            rw [decodedPiece_negative ha hb (UInt8.not_lt.mp hnot)]
            simp only [List.length_append, List.length_cons, List.length_nil]
            exact Or.inr (by omega)
        · exact bare_cases hbare (fun others hothers => ih others (by omega))
            (fun others hothers => hle others (by omega))
    · rw [decodingLoop_plain hc, decodeEscapes_plain (not_beginsEscape hc)]
      rcases ih rest (by omega) with h | h
      · exact Or.inl (.plain hc h)
      · simp only [List.length_cons]
        exact Or.inr (by omega)

theorem decodingLoop_eq_iff : decodingLoop signed 0 t = decodeEscapes t ↔ Readable signed t := by
  constructor
  · intro h
    rcases readable_or_longer t.length t (Nat.le_refl _) with hread | hlonger
    · exact hread
    · rw [h] at hlonger
      exact absurd hlonger (Nat.lt_irrefl _)
  · exact Readable.decodingLoop_eq

end Decoding

section Encoding

variable {signed : Bool} {s : Octets}

theorem decodingLoop_flatMap {encoded decoded : UInt8 → Octets}
    (h : ∀ c rest, decodingLoop signed 0 (encoded c ++ rest) =
      decoded c ++ decodingLoop signed 0 rest) :
    decodingLoop signed 0 (s.flatMap encoded) = s.flatMap decoded := by
  induction s with
  | nil => rfl
  | cons c rest ih => rw [List.flatMap_cons, h, ih, List.flatMap_cons]

/-- Pieces that are the octet or longer give the text back exactly when each is the octet. -/
theorem flatMap_eq_self_iff {piece : UInt8 → Octets}
    (h : ∀ c, piece c = [c] ∨ 1 < (piece c).length) :
    s.flatMap piece = s ↔ ∀ c ∈ s, piece c = [c] := by
  have hle (t : Octets) : t.length ≤ (t.flatMap piece).length := by
    induction t with
    | nil => exact Nat.le_refl 0
    | cons c rest ih =>
      rw [List.flatMap_cons, List.length_append, List.length_cons]
      rcases h c with hc | hc
      · rw [hc, List.length_singleton]
        omega
      · omega
  induction s with
  | nil => exact ⟨fun _ c hc => absurd hc List.not_mem_nil, fun _ => rfl⟩
  | cons c rest ih =>
    rw [List.flatMap_cons]
    constructor
    · intro hself
      rcases h c with hc | hc
      · rw [hc, List.singleton_append] at hself
        have hrest := ih.mp (List.cons.inj hself).2
        intro d hd
        rcases List.mem_cons.mp hd with rfl | hd
        · exact hc
        · exact hrest d hd
      · have hlength := congrArg List.length hself
        rw [List.length_append, List.length_cons] at hlength
        have hrest := hle rest
        omega
    · intro hall
      rw [hall c List.mem_cons_self, ih.mpr fun d hd => hall d (List.mem_cons_of_mem c hd)]
      rfl

/-- The octets whose character is negative. -/
def IsNegative (signed : Bool) (c : UInt8) : Prop := signed = true ∧ 0x80 ≤ c

instance (signed : Bool) (c : UInt8) : Decidable (IsNegative signed c) :=
  inferInstanceAs (Decidable (_ ∧ _))

theorem charToHexString_nonnegative {c : UInt8} (h : ¬ IsNegative signed c) :
    charToHexString signed c = [hexDigit (c.toNat / 16), hexDigit (c.toNat % 16)] := by
  cases signed with
  | false => exact charToHexString_plain c
  | true =>
    rw [charToHexString_signed]
    exact if_neg fun hle => h ⟨rfl, hle⟩

theorem charToHexString_negative {c : UInt8} (h : IsNegative signed c) :
    charToHexString signed c =
      List.replicate 6 (hexDigit 15) ++ [hexDigit (c.toNat / 16), hexDigit (c.toNat % 16)] := by
  obtain ⟨rfl, hle⟩ := h
  rw [charToHexString_signed, if_pos hle]

theorem decodingLoop_nonnegative {c : UInt8} (h : ¬ IsNegative signed c) (rest : Octets) :
    decodingLoop signed 0 (charPercent :: charToHexString signed c ++ rest) =
      c :: decodingLoop signed 0 rest := by
  obtain ⟨hhigh, hlow, hoctet⟩ := hexDigits_octet c
  have hvalue : signed = true →
      escapedOctet (hexDigit (c.toNat / 16)) (hexDigit (c.toNat % 16)) < 0x80 := by
    rw [hoctet]
    exact fun hsigned => UInt8.not_le.mp fun hle => h ⟨hsigned, hle⟩
  have hpiece := decodedPiece_escape hhigh hlow hvalue
  rw [hoctet] at hpiece
  rw [charToHexString_nonnegative h]
  exact decodingLoop_percent.trans (congrArg (· ++ decodingLoop signed 0 rest) hpiece)

theorem decodingLoop_negative {c : UInt8} (h : IsNegative signed c) (rest : Octets) :
    decodingLoop signed 0 (charPercent :: hexDigit 15 :: hexDigit 15 :: rest) =
      charPercent :: hexDigit 15 :: hexDigit 15 :: decodingLoop signed 0 rest := by
  obtain ⟨rfl, -⟩ := h
  rw [decodingLoop_percent, decodedPiece_negative (by decide) (by decide) (by decide)]
  rfl

/-- The characters that `DoPercentEncodingEx` leaves. -/
def keptEx (strPeExcludingChar : Octets) (c : UInt8) : Bool :=
  isDigit c || isAlpha c ||
    (decide (strPeExcludingChar.length > 0) && strPeExcludingChar.contains c)

/-- The characters that `Feature::DoPercentEncoding` leaves. -/
def Feature.kept (c : UInt8) : Bool :=
  isAlpha c || isDigit c || c == 0x21 || c == 0x2D || c == 0x2E || c == 0x45 || c == 0x2A ||
    c == 0x5F || c == 0x2B || c == 0x60 || c == 0x47 || c == 0x7E

theorem keptEx_iff {excl : Octets} {c : UInt8} :
    keptEx excl c = true ↔ isDigit c = true ∨ isAlpha c = true ∨ c ∈ excl := by
  have hmem : (decide (excl.length > 0) && excl.contains c) = true ↔ c ∈ excl := by
    rw [Bool.and_eq_true, List.contains_iff_mem, decide_eq_true_iff]
    exact ⟨And.right, fun hc => ⟨List.length_pos_of_mem hc, hc⟩⟩
  rw [keptEx, Bool.or_eq_true, Bool.or_eq_true, hmem, or_assoc]

theorem keptEx_negative {excl : Octets} {c : UInt8} (hc : 0x80 ≤ c) :
    keptEx excl c = true ↔ c ∈ excl := by
  have hletters : ∀ c : UInt8, 0x80 ≤ c → isDigit c = false ∧ isAlpha c = false :=
    forall_octet (by decide +kernel)
  obtain ⟨hdigit, halpha⟩ := hletters c hc
  rw [keptEx_iff, hdigit, halpha]
  simp only [Bool.false_eq_true, false_or]

theorem Feature.kept_negative : ∀ c : UInt8, 0x80 ≤ c → Feature.kept c = false :=
  forall_octet (by decide +kernel)

theorem Feature.kept_ne_charPercent {c : UInt8} (h : Feature.kept c = true) :
    c ≠ charPercent := by
  rintro rfl
  exact absurd h (by decide)

theorem keptEx_ne_charPercent {excl : Octets} (hexcl : charPercent ∉ excl) {c : UInt8}
    (h : keptEx excl c = true) : c ≠ charPercent := by
  rintro rfl
  rcases keptEx_iff.mp h with hdigit | halpha | hmem
  · exact absurd hdigit (by decide)
  · exact absurd halpha (by decide)
  · exact hexcl hmem

/-- What a character of `DoPercentEncodingEx` is decoded to. -/
def decodedCharEx (signed : Bool) (excl : Octets) (c : UInt8) : Octets :=
  if keptEx excl c = false ∧ IsNegative signed c then
    [charPercent, hexDigit 15, hexDigit 15]
  else [c]

theorem decodingLoop_encodedCharEx {excl : Octets} (hexcl : charPercent ∉ excl) (c : UInt8)
    (rest : Octets) :
    decodingLoop signed 0 (encodedCharEx signed excl c ++ rest) =
      decodedCharEx signed excl c ++ decodingLoop signed 0 rest := by
  change decodingLoop signed 0 ((if keptEx excl c = true then [c]
    else charPercent :: (charToHexString signed c).take 2) ++ rest) = _
  unfold decodedCharEx
  cases hkept : keptEx excl c with
  | true =>
    rw [if_pos rfl, if_neg fun h => Bool.noConfusion h.1]
    exact decodingLoop_plain (keptEx_ne_charPercent hexcl hkept)
  | false =>
    rw [if_neg Bool.false_ne_true]
    by_cases h : IsNegative signed c
    · rw [if_pos ⟨rfl, h⟩, charToHexString_negative h]
      exact decodingLoop_negative h rest
    · rw [if_neg fun hboth => h hboth.2]
      have hdecoded := decodingLoop_nonnegative h rest
      rw [charToHexString_nonnegative h] at hdecoded ⊢
      exact hdecoded

/-- What a character of `Feature::DoPercentEncoding` is decoded to. -/
def Feature.decodedChar (signed : Bool) (c : UInt8) : Octets :=
  if Feature.kept c = false ∧ IsNegative signed c then
    charPercent :: charToHexString signed c
  else [c]

theorem Feature.decodingLoop_encodedChar (c : UInt8) (rest : Octets) :
    decodingLoop signed 0 (Feature.encodedChar signed c ++ rest) =
      Feature.decodedChar signed c ++ decodingLoop signed 0 rest := by
  change decodingLoop signed 0 ((if Feature.kept c = true then [c]
    else charPercent :: charToHexString signed c) ++ rest) = _
  unfold Feature.decodedChar
  cases hkept : Feature.kept c with
  | true =>
    rw [if_pos rfl, if_neg fun h => Bool.noConfusion h.1]
    exact decodingLoop_plain (Feature.kept_ne_charPercent hkept)
  | false =>
    rw [if_neg Bool.false_ne_true]
    by_cases h : IsNegative signed c
    · obtain ⟨hhigh, hlow, -⟩ := hexDigits_octet c
      have hdigit : isHexCharacter (hexDigit 15) = true := by decide
      have hdigits : ∀ d ∈ List.replicate 4 (hexDigit 15) ++
          [hexDigit (c.toNat / 16), hexDigit (c.toNat % 16)], isHexCharacter d = true := by
        intro d hd
        rcases List.mem_append.mp hd with hd | hd
        · rw [List.eq_of_mem_replicate hd]
          exact hdigit
        · rcases List.mem_pair.mp hd with rfl | rfl
          · exact hhigh
          · exact hlow
      rw [if_pos ⟨rfl, h⟩, charToHexString_negative h]
      refine (decodingLoop_negative h (List.replicate 4 (hexDigit 15) ++
        [hexDigit (c.toNat / 16), hexDigit (c.toNat % 16)] ++ rest)).trans ?_
      rw [decodingLoop_digits hdigits]
      rfl
    · rw [if_neg fun hboth => h hboth.2]
      exact decodingLoop_nonnegative h rest

end Encoding

/-- `DoPercentDecoding` gives back what `DoPercentEncodingEx` has encoded, with every
character left or written as an escape. -/
def RoundTrips (signed : Bool) (s excl : Octets) : Prop :=
  doPercentDecoding signed (doPercentEncodingEx signed s excl) = s ∧
    ∀ c ∈ s, IsWritten c (encodedCharEx signed excl c)

/-- The same for the two functions of `Feature`. -/
def Feature.RoundTrips (signed : Bool) (s : Octets) : Prop :=
  Feature.doPercentDecoding signed (Feature.doPercentEncoding signed s) = s ∧
    ∀ c ∈ s, IsWritten c (Feature.encodedChar signed c)

theorem isWritten_encodedCharEx (signed : Bool) (excl : Octets) (c : UInt8) :
    IsWritten c (encodedCharEx signed excl c) := by
  change IsWritten c (if keptEx excl c = true then [c]
    else charPercent :: (charToHexString signed c).take 2)
  by_cases hkept : keptEx excl c = true
  · exact Or.inl (if_pos hkept)
  · refine Or.inr ?_
    by_cases h : IsNegative signed c
    · refine ⟨hexDigit 15, hexDigit 15, by decide, by decide, ?_⟩
      rw [if_neg hkept, charToHexString_negative h]
      rfl
    · obtain ⟨hhigh, hlow, -⟩ := hexDigits_octet c
      refine ⟨_, _, hhigh, hlow, ?_⟩
      rw [if_neg hkept, charToHexString_nonnegative h]
      rfl

theorem comesBack_iff (signed : Bool) (s excl : Octets) (hexcl : charPercent ∉ excl) :
    RoundTrips signed s excl ↔ (signed = true → ∀ c ∈ s, 0x80 ≤ c → c ∈ excl) := by
  have hpieces (c : UInt8) : decodedCharEx signed excl c = [c] ∨
      1 < (decodedCharEx signed excl c).length := by
    unfold decodedCharEx
    split
    · exact Or.inr (by simp)
    · exact Or.inl rfl
  have hself : decodingLoop signed 0 (doPercentEncodingEx signed s excl) = s ↔
      ∀ c ∈ s, decodedCharEx signed excl c = [c] := by
    unfold doPercentEncodingEx
    rw [decodingLoop_flatMap (decodingLoop_encodedCharEx hexcl)]
    exact flatMap_eq_self_iff hpieces
  unfold RoundTrips
  rw [doPercentDecoding_eq, hself]
  constructor
  · rintro ⟨hall, -⟩ hsigned c hc hle
    have hdecoded := hall c hc
    unfold decodedCharEx at hdecoded
    by_contra hmem
    have hkept : keptEx excl c = false :=
      Bool.eq_false_iff.mpr fun h => hmem ((keptEx_negative hle).mp h)
    rw [if_pos ⟨hkept, hsigned, hle⟩] at hdecoded
    exact absurd (congrArg List.length hdecoded) (by simp)
  · intro h
    refine ⟨?_, fun c _ => isWritten_encodedCharEx signed excl c⟩
    intro c hc
    refine if_neg ?_
    rintro ⟨hkept, hsigned, hle⟩
    rw [(keptEx_negative hle).mpr (h hsigned c hc hle)] at hkept
    exact Bool.noConfusion hkept

theorem Feature.comesBack_iff (signed : Bool) (s : Octets) :
    Feature.RoundTrips signed s ↔ (signed = true → ∀ c ∈ s, c < 0x80) := by
  have hlength {c : UInt8} (h : IsNegative signed c) : (charToHexString signed c).length = 8 := by
    rw [charToHexString_negative h]
    rfl
  have hpieces (c : UInt8) : Feature.decodedChar signed c = [c] ∨
      1 < (Feature.decodedChar signed c).length := by
    unfold Feature.decodedChar
    split
    · next h =>
      refine Or.inr ?_
      rw [List.length_cons, hlength h.2]
      decide
    · exact Or.inl rfl
  have hself : Feature.doPercentDecoding signed (Feature.doPercentEncoding signed s) = s ↔
      ∀ c ∈ s, Feature.decodedChar signed c = [c] := by
    unfold Feature.doPercentDecoding Feature.doPercentEncoding
    rw [decodingLoop_flatMap Feature.decodingLoop_encodedChar]
    exact flatMap_eq_self_iff hpieces
  unfold Feature.RoundTrips
  rw [hself]
  constructor
  · rintro ⟨hall, -⟩ hsigned c hc
    refine UInt8.not_le.mp fun hle => ?_
    have hdecoded := hall c hc
    unfold Feature.decodedChar at hdecoded
    rw [if_pos ⟨Feature.kept_negative c hle, hsigned, hle⟩] at hdecoded
    have hlengths := congrArg List.length hdecoded
    rw [List.length_cons, hlength ⟨hsigned, hle⟩, List.length_singleton] at hlengths
    omega
  · intro h
    have hnonnegative : ∀ c ∈ s, ¬ IsNegative signed c := by
      rintro c hc ⟨hsigned, hle⟩
      exact absurd (h hsigned c hc) (UInt8.not_lt.mpr hle)
    refine ⟨fun c hc => if_neg fun hboth => hnonnegative c hc hboth.2, ?_⟩
    intro c hc
    change IsWritten c (if Feature.kept c = true then [c]
      else charPercent :: charToHexString signed c)
    by_cases hkept : Feature.kept c = true
    · exact Or.inl (if_pos hkept)
    · obtain ⟨hhigh, hlow, -⟩ := hexDigits_octet c
      refine Or.inr ⟨_, _, hhigh, hlow, ?_⟩
      rw [if_neg hkept, charToHexString_nonnegative (hnonnegative c hc)]

/-- Exactly when the percent coding does what it is for: with a signed `char` no negative
character may be escaped; and a text is decoded as meant when it is `Readable`. -/
theorem percentCoding_iff (signed : Bool) (s excl t : Octets) (hexcl : charPercent ∉ excl) :
    (RoundTrips signed s excl ↔ (signed = true → ∀ c ∈ s, 0x80 ≤ c → c ∈ excl)) ∧
      (Feature.RoundTrips signed s ↔ (signed = true → ∀ c ∈ s, c < 0x80)) ∧
      (doPercentDecoding signed t = decodeEscapes t ∧
        Feature.doPercentDecoding signed t = decodeEscapes t ↔ Readable signed t) := by
  refine ⟨comesBack_iff signed s excl hexcl, Feature.comesBack_iff signed s, ?_⟩
  rw [doPercentDecoding_eq]
  unfold Feature.doPercentDecoding
  rw [and_self_iff]
  exact decodingLoop_eq_iff

/-- "a/b" with "-" and "/" left, and the text "%2Fa". -/
theorem percentCoding_iff_slash :
    (RoundTrips true [0x61, 0x2F, 0x62] [0x2D, 0x2F] ↔
        (true = true → ∀ c ∈ ([0x61, 0x2F, 0x62] : Octets), 0x80 ≤ c →
          c ∈ ([0x2D, 0x2F] : Octets))) ∧
      (Feature.RoundTrips true [0x61, 0x2F, 0x62] ↔
        (true = true → ∀ c ∈ ([0x61, 0x2F, 0x62] : Octets), c < 0x80)) ∧
      (doPercentDecoding true [0x25, 0x32, 0x46, 0x61] =
            decodeEscapes [0x25, 0x32, 0x46, 0x61] ∧
          Feature.doPercentDecoding true [0x25, 0x32, 0x46, 0x61] =
            decodeEscapes [0x25, 0x32, 0x46, 0x61] ↔
        Readable true [0x25, 0x32, 0x46, 0x61]) :=
  percentCoding_iff true [0x61, 0x2F, 0x62] [0x2D, 0x2F] [0x25, 0x32, 0x46, 0x61] (by decide)

/-- The octet E9 does not come back where `char` is signed, and "%%41" is left as it is. -/
theorem not_roundTrips_decodes :
    ¬ RoundTrips true [0xE9] [] ∧ ¬ Feature.RoundTrips true [0xE9] ∧
      ∀ signed, doPercentDecoding signed [0x25, 0x25, 0x34, 0x31] =
          [0x25, 0x25, 0x34, 0x31] ∧
        decodeEscapes [0x25, 0x25, 0x34, 0x31] = [0x25, 0x41] := by
  refine ⟨?_, ?_, by decide⟩
  · rintro ⟨h, -⟩
    exact absurd h (by decide)
  · rintro ⟨h, -⟩
    exact absurd h (by decide)

end ImsStack.Platform.TextParser
