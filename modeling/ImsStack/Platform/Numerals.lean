import Mathlib.Data.List.TakeWhile
import Mathlib.Tactic.IntervalCases
import ImsStack.Platform.AString

/-!
Numbers and their texts: what `SetNumber` prints, `ToInt32` and `ToUInt32` read back.
-/

namespace ImsStack.Platform.Numerals

open AString

theorem isDigit_iff (c : Char) : isDigit c = true ↔ c.isDigit = true := by
  simp [isDigit, Char.isDigit, Char.le_def]

theorem isDigit_of_mem_toDigits {c : Char} {n : Nat} (hc : c ∈ Nat.toDigits 10 n) :
    isDigit c = true :=
  (isDigit_iff c).mpr (Nat.isDigit_of_mem_toDigits (by decide) (by decide) hc)

theorem digitsToNat_toDigits (n : Nat) : digitsToNat (Nat.toDigits 10 n) = n := by
  have h := Nat.ofDigitChars_ten_toDigits (n := n)
  unfold Nat.ofDigitChars at h
  unfold digitsToNat
  simpa only [Nat.mul_comm 10] using h

theorem toDigits_ne_nil (n : Nat) : Nat.toDigits 10 n ≠ [] := Nat.toDigits_ne_nil

theorem not_mem_setNumber {c : Char} (n : Int) (hdigit : isDigit c = false) (hminus : c ≠ '-') :
    c ∉ setNumber n := by
  intro hc
  unfold setNumber at hc
  split at hc
  · rcases List.mem_cons.mp hc with hc | hc
    · exact hminus hc
    · rw [isDigit_of_mem_toDigits hc] at hdigit
      exact Bool.noConfusion hdigit
  · rw [isDigit_of_mem_toDigits hc] at hdigit
    exact Bool.noConfusion hdigit

theorem setNumber_ne_nil (n : Int) : setNumber n ≠ [] := by
  unfold setNumber
  split
  · simp
  · exact toDigits_ne_nil _

@[simp]
theorem setNumber_natCast (n : Nat) : setNumber (n : Int) = Nat.toDigits 10 n := by
  simp [setNumber]

theorem not_isSpace_of_mem_setNumber {c : Char} {n : Int} (hc : c ∈ setNumber n) :
    isSpace c = false := by
  by_contra hspace
  have hcases : c = '\n' ∨ c = '\t' ∨ c = '\x0b' ∨ c = ' ' ∨ c = '\r' ∨ c = '\x0c' := by
    grind [isSpace]
  have hnot : c ∉ setNumber n := by
    apply not_mem_setNumber
    · rcases hcases with rfl | rfl | rfl | rfl | rfl | rfl <;> decide
    · rcases hcases with rfl | rfl | rfl | rfl | rfl | rfl <;> decide
  exact hnot hc

theorem cString_eq_self {s : Chars} (hs : nul ∉ s) : cString s = s :=
  List.takeWhile_eq_self_iff.2 fun _ hc => decide_eq_true fun h => hs (h ▸ hc)

theorem stripLeading_eq_self {s : Chars} (hs : ∀ c ∈ s, isSpace c = false) :
    stripLeading s = s := by
  cases s with
  | nil => rfl
  | cons c s => exact List.dropWhile_cons_of_neg (by simp [hs c (by simp)])

theorem strip_eq_self {s : Chars} (hs : ∀ c ∈ s, isSpace c = false) : strip s = s := by
  have htrailing : s.reverse.dropWhile isSpace = s.reverse :=
    stripLeading_eq_self fun c hc => hs c (List.mem_reverse.mp hc)
  rw [strip, stripLeading_eq_self hs, stripTrailing, htrailing, List.reverse_reverse]

theorem cString_setNumber (n : Int) : cString (setNumber n) = setNumber n :=
  cString_eq_self (not_mem_setNumber n (by decide) (by decide))

theorem stripLeading_setNumber (n : Int) : stripLeading (setNumber n) = setNumber n :=
  stripLeading_eq_self fun _ => not_isSpace_of_mem_setNumber

@[simp]
theorem strip_setNumber (n : Int) : strip (setNumber n) = setNumber n :=
  strip_eq_self fun _ => not_isSpace_of_mem_setNumber

theorem all_isDigit_toDigits (n : Nat) : (Nat.toDigits 10 n).all isDigit = true :=
  List.all_eq_true.mpr fun _ => isDigit_of_mem_toDigits

theorem toDigits_eq_cons (n : Nat) :
    ∃ c text, Nat.toDigits 10 n = c :: text ∧ c ≠ '-' ∧ c ≠ '+' := by
  cases htext : Nat.toDigits 10 n with
  | nil => exact absurd htext (toDigits_ne_nil n)
  | cons c text =>
    have hc : isDigit c = true := isDigit_of_mem_toDigits (n := n) (htext ▸ List.mem_cons_self)
    refine ⟨c, text, rfl, ?_, ?_⟩
    · rintro rfl
      exact absurd hc (by decide)
    · rintro rfl
      exact absurd hc (by decide)

theorem readSign_of_digits {c : Char} {text : Chars} (hminus : c ≠ '-') (hplus : c ≠ '+') :
    readSign (c :: text) = (false, c :: text) := by
  unfold readSign
  split <;> simp_all

theorem readSign_setNumber (n : Int) :
    readSign (setNumber n) = (decide (n < 0), Nat.toDigits 10 n.natAbs) := by
  unfold setNumber
  split
  · next hnegative => simp [readSign, hnegative]
  · next hnegative =>
    obtain ⟨c, text, htext, hminus, hplus⟩ := toDigits_eq_cons n.natAbs
    rw [htext, readSign_of_digits hminus hplus]
    simp [hnegative]

theorem toInt32?_setNumber {n : Int} (hlow : -2 ^ 31 ≤ n) (hhigh : n < 2 ^ 31) :
    toInt32? (setNumber n) = some n := by
  have hvalue : (if decide (n < 0) = true then -(n.natAbs : Int) else n.natAbs) = n := by
    split
    · next h => have := of_decide_eq_true h; omega
    · next h => have := of_decide_eq_false (Bool.eq_false_iff.mpr h); omega
  unfold toInt32?
  rw [cString_setNumber, stripLeading_setNumber, readSign_setNumber, if_neg fun h => h.1 h.2,
    if_neg (by simp [all_isDigit_toDigits])]
  simp only [digitsToNat_toDigits, hvalue]
  rw [if_pos ⟨hlow, hhigh⟩]

theorem toUInt32?_setNumber {n : Nat} (hn : n < 2 ^ 32) : toUInt32? (setNumber n) = some n := by
  unfold toUInt32?
  rw [cString_setNumber, stripLeading_setNumber, readSign_setNumber, if_neg fun h => h.1 h.2,
    Int.natAbs_natCast, if_neg (by simp [all_isDigit_toDigits]), digitsToNat_toDigits, if_pos hn]

theorem toUInt32_setNumber {n : Nat} (hn : n < 2 ^ 32) : toUInt32 (setNumber n) = n := by
  rw [toUInt32, toUInt32?_setNumber hn, Option.getD_some]

theorem toInt32_setNumber {n : Int} (hlow : -2 ^ 31 ≤ n) (hhigh : n < 2 ^ 31) :
    toInt32 (setNumber n) = n := by
  rw [toInt32, toInt32?_setNumber hlow hhigh, Option.getD_some]

theorem toInt32?_range {s : Chars} {n : Int} (h : toInt32? s = some n) :
    -2 ^ 31 ≤ n ∧ n < 2 ^ 31 := by
  grind [toInt32?]

theorem toInt32_range (s : Chars) : -2 ^ 31 ≤ toInt32 s ∧ toInt32 s < 2 ^ 31 := by
  unfold toInt32
  cases h : toInt32? s with
  | none => decide
  | some n => exact toInt32?_range h

theorem toUInt32_lt (s : Chars) : toUInt32 s < 2 ^ 32 := by
  unfold toUInt32
  cases h : toUInt32? s with
  | none => decide
  | some n =>
    change n < 2 ^ 32
    grind [toUInt32?]

theorem length_toDigits_eq_ten_iff (n : Nat) :
    (Nat.toDigits 10 n).length = 10 ↔ 10 ^ 9 ≤ n ∧ n < 10 ^ 10 := by
  have hten := Nat.length_toDigits_le_iff (b := 10) (n := n) (k := 10) (by decide) (by decide)
  have hnine := Nat.length_toDigits_le_iff (b := 10) (n := n) (k := 9) (by decide) (by decide)
  omega

theorem head_toDigits_any {n : Nat} (hn : n ≠ 0) :
    ((Nat.toDigits 10 n).head?.any fun c => decide ('1' ≤ c ∧ c ≤ '9')) = true := by
  induction n using Nat.strongRecOn with
  | ind n ih =>
    by_cases hlt : n < 10
    · rw [Nat.toDigits_of_lt_base hlt]
      interval_cases n <;> first | exact absurd rfl hn | decide
    · have hquotient : n / 10 ≠ 0 := by omega
      rw [Nat.toDigits_of_base_le (by decide) (Nat.le_of_not_lt hlt),
        List.head?_append_of_ne_nil _ (toDigits_ne_nil _)]
      exact ih (n / 10) (by omega) hquotient

theorem exists_digit_of_mem_hexDigits {c : Char} {n : Nat} (hc : c ∈ Nat.toDigits 16 n) :
    ∃ d < 16, c = Nat.digitChar d := by
  induction n using Nat.strongRecOn with
  | ind n ih =>
    by_cases hlt : n < 16
    · rw [Nat.toDigits_of_lt_base hlt, List.mem_singleton] at hc
      exact ⟨n, hlt, hc⟩
    · rw [Nat.toDigits_of_base_le (by decide) (Nat.le_of_not_lt hlt)] at hc
      rcases List.mem_append.mp hc with hc | hc
      · exact ih (n / 16) (by omega) hc
      · exact ⟨n % 16, by omega, List.mem_singleton.mp hc⟩

theorem not_mem_hexDigits {c : Char} (n : Nat) (hc : ∀ d < 16, c ≠ Nat.digitChar d) :
    c ∉ Nat.toDigits 16 n := by
  intro hmem
  obtain ⟨d, hd, rfl⟩ := exists_digit_of_mem_hexDigits hmem
  exact hc d hd rfl

theorem hexDigit?_digitChar : ∀ d < 16, hexDigit? (Nat.digitChar d) = some d := by
  decide

theorem mapM_hexDigit?_toDigits (n : Nat) :
    ∃ digits, (Nat.toDigits 16 n).mapM hexDigit? = some digits ∧
      digits.foldl (fun value digit => value * 16 + digit) 0 = n := by
  induction n using Nat.strongRecOn with
  | ind n ih =>
    by_cases hlt : n < 16
    · refine ⟨[n], ?_, by simp⟩
      rw [Nat.toDigits_of_lt_base hlt, List.mapM_cons, hexDigit?_digitChar n hlt]
      rfl
    · obtain ⟨digits, hdigits, hvalue⟩ := ih (n / 16) (by omega)
      refine ⟨digits ++ [n % 16], ?_, ?_⟩
      · rw [Nat.toDigits_of_base_le (by decide) (Nat.le_of_not_lt hlt), List.mapM_append, hdigits,
          List.mapM_cons, hexDigit?_digitChar _ (by omega)]
        rfl
      · rw [List.foldl_append, hvalue]
        change n / 16 * 16 + n % 16 = n
        omega

theorem isSpace_cases {c : Char} (h : isSpace c = true) :
    c = '\n' ∨ c = '\t' ∨ c = '\x0b' ∨ c = ' ' ∨ c = '\r' ∨ c = '\x0c' := by
  grind [isSpace]

theorem not_isSpace_of_isDigit {c : Char} (hc : isDigit c = true) : isSpace c = false := by
  by_contra hspace
  rcases isSpace_cases (by simpa using hspace) with rfl | rfl | rfl | rfl | rfl | rfl <;>
    exact absurd hc (by decide)

theorem toUInt32?_of_digits {s : Chars} (hne : s ≠ []) (hdigits : s.all isDigit)
    (hlt : digitsToNat s < 2 ^ 32) : toUInt32? s = some (digitsToNat s) := by
  have hall : ∀ c ∈ s, isDigit c = true := List.all_eq_true.mp hdigits
  have hstring : cString s = s := by
    apply cString_eq_self
    intro hnul
    exact absurd (hall nul hnul) (by decide)
  have hsign : readSign s = (false, s) := by
    obtain ⟨c, text, rfl⟩ := List.exists_cons_of_ne_nil hne
    apply readSign_of_digits
    · rintro rfl
      exact absurd (hall '-' (by simp)) (by decide)
    · rintro rfl
      exact absurd (hall '+' (by simp)) (by decide)
  unfold toUInt32?
  rw [hstring, stripLeading_eq_self fun c hc => not_isSpace_of_isDigit (hall c hc), hsign,
    if_neg fun h => h.1 h.2, if_neg (by simp [hne, hdigits]), if_pos hlt]

theorem hexToUInt32?_of_plain {s : Chars} (hne : s ≠ [])
    (hplain : ∀ c ∈ s, isSpace c = false ∧ c ∉ [nul, '-', '+', 'x', 'X']) :
    hexToUInt32? s = (s.mapM hexDigit?).bind fun digits =>
      let value := digits.foldl (fun value digit => value * 16 + digit) 0
      if value < 2 ^ 32 then some value else none := by
  have hnot : ∀ c ∈ [nul, '-', '+', 'x', 'X'], c ∉ s := fun c hc hmem => (hplain c hmem).2 hc
  have hstring : cString s = s := cString_eq_self (hnot nul (by simp))
  have hsign : readSign s = (false, s) := by
    obtain ⟨c, text, rfl⟩ := List.exists_cons_of_ne_nil hne
    apply readSign_of_digits
    · rintro rfl
      exact hnot '-' (by simp) (by simp)
    · rintro rfl
      exact hnot '+' (by simp) (by simp)
  unfold hexToUInt32?
  rw [hstring, stripLeading_eq_self fun c hc => (hplain c hc).1, hsign, if_neg fun h => h.1 h.2]
  dsimp only
  split
  · next text => exact absurd (by simp) (hnot 'x' (by simp))
  · next text => exact absurd (by simp) (hnot 'X' (by simp))
  · rw [if_neg (by simp [hne])]
    rfl

theorem plain_of_hexDigit {c : Char} (hc : (hexDigit? c).isSome) :
    isSpace c = false ∧ c ∉ [nul, '-', '+', 'x', 'X'] := by
  constructor
  · by_contra hspace
    rcases isSpace_cases (by simpa using hspace) with rfl | rfl | rfl | rfl | rfl | rfl <;>
      exact absurd hc (by decide)
  · intro hmem
    simp only [List.mem_cons, List.not_mem_nil, or_false] at hmem
    rcases hmem with rfl | rfl | rfl | rfl | rfl <;> exact absurd hc (by decide)

theorem hexToUInt32?_of_digits {s : Chars} (hne : s ≠ [])
    (hdigits : ∀ c ∈ s, (hexDigit? c).isSome) :
    hexToUInt32? s = (s.mapM hexDigit?).bind fun digits =>
      let value := digits.foldl (fun value digit => value * 16 + digit) 0
      if value < 2 ^ 32 then some value else none :=
  hexToUInt32?_of_plain hne fun c hc => plain_of_hexDigit (hdigits c hc)

theorem hexDigits_isSome {n : Nat} : ∀ c ∈ Nat.toDigits 16 n, (hexDigit? c).isSome := by
  intro c hc
  obtain ⟨d, hd, rfl⟩ := exists_digit_of_mem_hexDigits hc
  simp [hexDigit?_digitChar d hd]

end ImsStack.Platform.Numerals
