import ImsStack.Platform.IpReading
import ImsStack.Platform.IpPrinters

/-!
The parser reads back what either printer has printed.
-/

namespace ImsStack.Platform.IpAddress

open AString Numerals Tokens Library.OptionTraverse

theorem groupBytes_group (high low : UInt8) :
    groupBytes ((high.toNat <<< 8) ||| low.toNat) = [high, low] := by
  have hlow : low.toNat < 2 ^ 8 := low.toNat_lt
  have hhigh : high.toNat < 2 ^ 8 := high.toNat_lt
  have hbyte : (0xff : Nat) = 2 ^ 8 - 1 := rfl
  have hor : (high.toNat <<< 8) ||| low.toNat = high.toNat * 2 ^ 8 + low.toNat := by
    rw [← Nat.shiftLeft_add_eq_or_of_lt hlow, Nat.shiftLeft_eq]
  unfold groupBytes
  rw [hor, hbyte, Nat.and_two_pow_sub_one_eq_mod, Nat.and_two_pow_sub_one_eq_mod,
    Nat.shiftRight_eq_div_pow]
  have hfirst : (high.toNat * 2 ^ 8 + low.toNat) / 2 ^ 8 % 2 ^ 8 = high.toNat := by omega
  have hsecond : (high.toNat * 2 ^ 8 + low.toNat) % 2 ^ 8 = low.toNat := by omega
  rw [hfirst, hsecond, UInt8.ofNat_toNat, UInt8.ofNat_toNat]

theorem flatMap_groupBytes {n : Nat} {bytes : List UInt8} (hlength : bytes.length = 2 * n) :
    ((List.range n).map fun i =>
      ((bytes.getD (2 * i) 0).toNat <<< 8) ||| (bytes.getD (2 * i + 1) 0).toNat).flatMap
        groupBytes = bytes := by
  induction n generalizing bytes with
  | zero => exact (List.eq_nil_of_length_eq_zero hlength).symm
  | succ n ih =>
    obtain ⟨high, rest, rfl⟩ := List.exists_cons_of_length_eq_add_one (n := 2 * n + 1) hlength
    obtain ⟨low, rest, rfl⟩ :=
      List.exists_cons_of_length_eq_add_one (n := 2 * n) (Nat.succ.inj hlength)
    have hrest := ih (Nat.succ.inj (Nat.succ.inj hlength))
    rw [List.range_succ_eq_map, List.map_cons, List.map_map, List.flatMap_cons]
    change groupBytes ((high.toNat <<< 8) ||| low.toNat) ++ _ = high :: low :: rest
    rw [groupBytes_group]
    exact congrArg (fun tail => high :: low :: tail) hrest

theorem flatMap_groups (objA6 : Ipv6Address) : (groups objA6).flatMap groupBytes = objA6.aIp6 :=
  flatMap_groupBytes (n := 8) objA6.length_eq

theorem groups_lt (objA6 : Ipv6Address) : ∀ nValue ∈ groups objA6, nValue ≤ 0xffff := by
  intro nValue hvalue
  obtain ⟨i, -, rfl⟩ := List.mem_map.mp hvalue
  have hhigh := (objA6.aIp6.getD (2 * i) 0).toNat_lt
  have hlow := (objA6.aIp6.getD (2 * i + 1) 0).toNat_lt
  have hor := Nat.shiftLeft_add_eq_or_of_lt (i := 8) hlow (objA6.aIp6.getD (2 * i) 0).toNat
  rw [← hor, Nat.shiftLeft_eq]
  omega

theorem isGroup_hexText {nValue : Nat} (hvalue : nValue ≤ 0xffff) : IsGroup (hexText nValue) := by
  refine ⟨hexText_ne_nil nValue, ?_, hexDigits_isSome⟩
  have hlength := Nat.length_toDigits_le_iff (b := 16) (n := nValue) (k := 4) (by decide) (by decide)
  exact hlength.mpr (by omega)

theorem groupValue_hexText (nValue : Nat) : groupValue (hexText nValue) = nValue := by
  obtain ⟨digits, hdigits, hfold⟩ := mapM_hexDigit?_toDigits nValue
  have hread := filterMap_hexDigit? (hexDigits_isSome (n := nValue))
  rw [hdigits] at hread
  rw [groupValue, hexText, ← Option.some.inj hread, hfold]

theorem bytesOfGroups_hexText (aTmp : List Nat) :
    bytesOfGroups (aTmp.map hexText) = aTmp.flatMap groupBytes := by
  rw [bytesOfGroups, List.flatMap_map]
  simp only [groupValue_hexText]

theorem forall_mem_map_hexText {aTmp : List Nat} (hvalues : ∀ nValue ∈ aTmp, nValue ≤ 0xffff) :
    ∀ group ∈ aTmp.map hexText, IsGroup group :=
  List.forall_mem_map.mpr fun nValue hmem => isGroup_hexText (hvalues nValue hmem)

theorem replicate_eq_flatMap (n : Nat) :
    List.replicate (2 * n) (0 : UInt8) = (List.replicate n 0).flatMap groupBytes := by
  induction n with
  | zero => rfl
  | succ n ih =>
    rw [Nat.mul_add, Nat.add_comm, List.replicate_add, ih, List.replicate_succ]
    rfl

/-- A run of zero groups of an address. -/
def IsZeroRun (aTmp : List Nat) (objGoZ : GroupOfZeroes) : Prop :=
  objGoZ.nStart ≤ objGoZ.nEnd ∧ objGoZ.nEnd ≤ 7 ∧
    ¬(objGoZ.nStart = objGoZ.nEnd ∧ (objGoZ.nStart = 0 ∨ objGoZ.nStart = 7)) ∧
    aTmp = aTmp.take objGoZ.nStart ++ List.replicate (objGoZ.nEnd + 1 - objGoZ.nStart) 0 ++
      aTmp.drop (objGoZ.nEnd + 1)

theorem denotes_printedFields {aTmp : List Nat} (hlength : aTmp.length = 8)
    (hvalues : ∀ nValue ∈ aTmp, nValue ≤ 0xffff) {choice : Option GroupOfZeroes}
    (hchoice : ∀ objGoZ ∈ choice, IsZeroRun aTmp objGoZ) :
    Denotes ([':'].intercalate (printedFields (aTmp.map hexText) choice))
      (aTmp.flatMap groupBytes) := by
  rw [← bytesOfGroups_hexText]
  cases choice with
  | none =>
    refine .full (elements_of_groups (forall_mem_map_hexText hvalues)) ?_
    rw [length_bytesOfGroups, List.length_map, hlength]
  | some objGoZ =>
    obtain ⟨hle, hseven, -, hzeroes⟩ := hchoice objGoZ rfl
    have hbefore : (if objGoZ.nStart = 0 then [[]] else (aTmp.map hexText).take objGoZ.nStart) =
        sideFields ((aTmp.take objGoZ.nStart).map hexText) := by
      have hempty : (aTmp.map hexText).take objGoZ.nStart = [] ↔ objGoZ.nStart = 0 := by
        rw [← List.length_eq_zero_iff, List.length_take, List.length_map]
        omega
      rw [List.map_take, sideFields]
      simp only [hempty]
    have hbehind : (if objGoZ.nEnd = 7 then [[]] else (aTmp.map hexText).drop (objGoZ.nEnd + 1)) =
        sideFields ((aTmp.drop (objGoZ.nEnd + 1)).map hexText) := by
      have hempty : (aTmp.map hexText).drop (objGoZ.nEnd + 1) = [] ↔ objGoZ.nEnd = 7 := by
        rw [← List.length_eq_zero_iff, List.length_drop, List.length_map]
        omega
      rw [List.map_drop, sideFields]
      simp only [hempty]
    have hfront : ∀ group ∈ (aTmp.take objGoZ.nStart).map hexText, IsGroup group :=
      forall_mem_map_hexText fun nValue hmem => hvalues nValue (List.mem_of_mem_take hmem)
    have hgroups : ∀ group ∈ (aTmp.drop (objGoZ.nEnd + 1)).map hexText, IsGroup group :=
      forall_mem_map_hexText fun nValue hmem => hvalues nValue (List.mem_of_mem_drop hmem)
    have hback := elements_of_groups hgroups
    have hfrontLength : (bytesOfGroups ((aTmp.take objGoZ.nStart).map hexText)).length =
        2 * objGoZ.nStart := by
      rw [length_bytesOfGroups, List.length_map, List.length_take]
      omega
    have hbackLength : (bytesOfGroups ((aTmp.drop (objGoZ.nEnd + 1)).map hexText)).length =
        2 * (7 - objGoZ.nEnd) := by
      rw [length_bytesOfGroups, List.length_map, List.length_drop]
      omega
    have hdenotes := Denotes.short hfront hback (by rw [hfrontLength, hbackLength]; omega)
    have hmissing : 16 - 2 * objGoZ.nStart - 2 * (7 - objGoZ.nEnd) =
        2 * (objGoZ.nEnd + 1 - objGoZ.nStart) := by omega
    rw [short_eq, ← hbefore, ← hbehind, hfrontLength, hbackLength, hmissing, replicate_eq_flatMap,
      bytesOfGroups_hexText, bytesOfGroups_hexText, ← List.flatMap_append, ← List.flatMap_append,
      ← hzeroes] at hdenotes
    rw [bytesOfGroups_hexText]
    exact hdenotes

/-- What a printer shortens is a run of zero groups, and not one at an end of the address. -/
theorem choices_zero {zeroes : List Bool} (hlength : zeroes.length = 8) :
    ∀ choice ∈ [stringChoice zeroes, charStringChoice zeroes], ∀ objGoZ ∈ choice,
      ¬(objGoZ.nStart = objGoZ.nEnd ∧ (objGoZ.nStart = 0 ∨ objGoZ.nStart = 7)) ∧
        ∀ i < 8, objGoZ.nStart ≤ i → i ≤ objGoZ.nEnd → zeroes[i]? = some true := by
  have h : Everywhere 8 fun zeroes =>
      ∀ choice ∈ [stringChoice zeroes, charStringChoice zeroes], ∀ objGoZ ∈ choice,
        ¬(objGoZ.nStart = objGoZ.nEnd ∧ (objGoZ.nStart = 0 ∨ objGoZ.nStart = 7)) ∧
          ∀ i < 8, objGoZ.nStart ≤ i → i ≤ objGoZ.nEnd → zeroes[i]? = some true := by
    decide +kernel
  exact h.holds hlength

theorem isZeroRun_of_choice {aTmp : List Nat} (hlength : aTmp.length = 8)
    {choice : Option GroupOfZeroes}
    (hchoice : choice ∈ [stringChoice (aTmp.map (· == 0)), charStringChoice (aTmp.map (· == 0))]) :
    ∀ objGoZ ∈ choice, IsZeroRun aTmp objGoZ := by
  intro objGoZ hmem
  have hzeroes : (aTmp.map (· == 0)).length = 8 := by simpa using hlength
  obtain ⟨hshort, hrun⟩ := choices_zero hzeroes choice hchoice objGoZ hmem
  have hle : objGoZ.nStart ≤ objGoZ.nEnd ∧ objGoZ.nEnd ≤ 7 := by
    rcases List.mem_cons.mp hchoice with rfl | hchoice
    · exact (choices_le hzeroes).1 objGoZ hmem
    · obtain rfl := List.mem_singleton.mp hchoice
      exact (choices_le hzeroes).2 objGoZ hmem
  refine ⟨hle.1, hle.2, hshort, ?_⟩
  have hmiddle : (aTmp.drop objGoZ.nStart).take (objGoZ.nEnd + 1 - objGoZ.nStart) =
      List.replicate (objGoZ.nEnd + 1 - objGoZ.nStart) 0 := by
    apply List.ext_getElem?
    intro i
    rw [List.getElem?_take, List.getElem?_replicate, List.getElem?_drop]
    split
    · next hi =>
      have hzero := hrun (objGoZ.nStart + i) (by omega) (by omega) (by omega)
      rw [List.getElem?_map, Option.map_eq_some_iff] at hzero
      obtain ⟨nValue, hvalue, hzero⟩ := hzero
      rw [hvalue, beq_iff_eq.mp hzero]
    · rfl
  have hrest : (aTmp.drop objGoZ.nStart).drop (objGoZ.nEnd + 1 - objGoZ.nStart) =
      aTmp.drop (objGoZ.nEnd + 1) := by
    rw [List.drop_drop]
    congr 1
    omega
  rw [← hmiddle, ← hrest, List.append_assoc, List.take_append_drop, List.take_append_drop]

theorem length_emptyFields {zeroes : List Bool} (hlength : zeroes.length = 8) :
    ∀ choice ∈ [stringChoice zeroes, charStringChoice zeroes],
      3 ≤ (emptyFields choice).length ∧ (emptyFields choice).length ≤ 8 := by
  have h : Everywhere 8 fun zeroes => ∀ choice ∈ [stringChoice zeroes, charStringChoice zeroes],
      3 ≤ (emptyFields choice).length ∧ (emptyFields choice).length ≤ 8 := by
    decide +kernel
  exact h.holds hlength

theorem printed_chars (aTmp : List Nat) (choice : Option GroupOfZeroes) {c : Char}
    (hc : c ∈ [':'].intercalate (printedFields (aTmp.map hexText) choice)) :
    c = ':' ∨ ∃ d < 16, c = Nat.digitChar d := by
  rcases mem_of_mem_intercalate hc with hc | ⟨field, hfield, hc⟩
  · exact .inl hc
  · refine .inr (forall_mem_printedFields (P := fun field => c ∈ field → _) ?_ ?_ choice field hfield hc)
    · intro hc
      simp at hc
    · intro nValue _ hc
      exact exists_digit_of_mem_hexDigits hc

theorem parse_printed (aIp6 : List UInt8) (objA6 : Ipv6Address) {choice : Option GroupOfZeroes}
    (hchoice : choice ∈ [stringChoice ((groups objA6).map (· == 0)),
      charStringChoice ((groups objA6).map (· == 0))]) :
    parse aIp6 ([':'].intercalate (printedFields ((groups objA6).map hexText) choice)) =
      ipv6 objA6 := by
  have hlength := length_groups objA6
  have hzeroes : ((groups objA6).map (· == 0)).length = 8 := by simpa using hlength
  have hrun := isZeroRun_of_choice hlength hchoice
  have hcount : 3 ≤ (printedFields ((groups objA6).map hexText) choice).length ∧
      (printedFields ((groups objA6).map hexText) choice).length ≤ 8 := by
    have hle : ∀ objGoZ ∈ choice, objGoZ.nStart ≤ 7 := fun objGoZ h =>
      (hrun objGoZ h).1.trans (hrun objGoZ h).2.1
    rw [← List.length_map (f := List.isEmpty), map_isEmpty_printedFields hlength hle]
    exact length_emptyFields hzeroes choice hchoice
  have hsplitOn := splitOn_printed hlength choice
  have hdenotes := denotes_printedFields hlength (groups_lt objA6) hrun
  have hchars : ∀ c ∈ [':'].intercalate (printedFields ((groups objA6).map hexText) choice),
      c = ':' ∨ ∃ d < 16, c = Nat.digitChar d := fun _ => printed_chars _ choice
  generalize [':'].intercalate (printedFields ((groups objA6).map hexText) choice) = text at *
  have hstrip : strip text = text := by
    apply strip_eq_self
    intro c hc
    have hdigits : ∀ d < 16, isSpace (Nat.digitChar d) = false := by decide
    rcases hchars c hc with rfl | ⟨d, hd, rfl⟩
    · rfl
    · exact hdigits d hd
  have hbrackets : removeBrackets text = text := by
    rw [removeBrackets, if_neg]
    rintro ⟨hhead, -⟩
    have hdigits : ∀ d < 16, '[' ≠ Nat.digitChar d := by decide
    rcases hchars '[' (List.mem_of_head? hhead) with h | ⟨d, hd, h⟩
    · exact absurd h (by decide)
    · exact hdigits d hd h
  have haddress : addressText text = text := by
    rw [addressText, hstrip, hbrackets]
  rw [← haddress] at hdenotes
  refine hdenotes.parse ?_ aIp6 (flatMap_groups objA6)
  rw [haddress, hsplitOn]
  exact hcount.2

theorem octet_lt (n : Nat) : n &&& 0xff ≤ 0xff := Nat.and_le_right

theorem octets_eq {n : Nat} (hn : n < 2 ^ 32) :
    (((((0 <<< 8 + ((n >>> 24) &&& 0xff)) <<< 8 + ((n >>> 16) &&& 0xff)) <<< 8) +
      ((n >>> 8) &&& 0xff)) <<< 8) + ((n >>> 0) &&& 0xff) = n := by
  have hbyte : (0xff : Nat) = 2 ^ 8 - 1 := rfl
  simp only [hbyte, Nat.and_two_pow_sub_one_eq_mod, Nat.shiftRight_eq_div_pow, Nat.shiftLeft_eq]
  omega

theorem notMem_decimal {c : Char} (n : Nat) (hdigit : isDigit c = false) (hminus : c ≠ '-') :
    c ∉ Nat.toDigits 10 n := by
  rw [← setNumber_natCast]
  exact not_mem_setNumber n hdigit hminus

theorem parseIpv4_printed {values : List Nat} (hlength : values.length = 4)
    (hvalues : ∀ nValue ∈ values, nValue ≤ 0xff) :
    parseIpv4 (['.'].intercalate (values.map (Nat.toDigits 10))) =
      some (values.foldl (fun nIp4 nValue => (nIp4 <<< 8) + nValue) 0) := by
  have hsplit : split '.' (['.'].intercalate (values.map (Nat.toDigits 10))) =
      values.map (Nat.toDigits 10) := by
    apply split_intercalate
    · intro h
      rw [List.map_eq_nil_iff.mp h] at hlength
      exact absurd hlength (by decide)
    · exact List.forall_mem_map.mpr fun nValue _ => notMem_decimal nValue (by decide) (by decide)
    · exact List.forall_mem_map.mpr fun nValue _ => by
        rw [← setNumber_natCast, strip_setNumber]
  have hfold : ∀ nIp4, (values.map (Nat.toDigits 10)).foldlM (fun nIp4 strValue => do
      let nByteValue ← toUInt32? strValue
      if nByteValue > 0xff then none else some ((nIp4 <<< 8) + nByteValue)) nIp4 =
        some (values.foldl (fun nIp4 nValue => (nIp4 <<< 8) + nValue) nIp4) := by
    clear hsplit hlength
    induction values with
    | nil => exact fun nIp4 => rfl
    | cons nValue values ih =>
      intro nIp4
      obtain ⟨hvalue, hvalues⟩ := List.forall_mem_cons.mp hvalues
      have hread : toUInt32? (Nat.toDigits 10 nValue) = some nValue := by
        rw [← setNumber_natCast, toUInt32?_setNumber (by omega)]
      rw [List.map_cons, List.foldlM_cons, hread, List.foldl_cons, ← ih hvalues]
      simp [Nat.not_lt.mpr hvalue]
  unfold parseIpv4
  dsimp only
  rw [hsplit, if_neg (by rw [List.length_map, hlength]; decide), hfold]

theorem parse_ipv4Text (aIp6 : List UInt8) (nA : UInt32) : parse aIp6 (ipv4Text nA) = ipv4 nA := by
  have htext : ipv4Text nA = ['.'].intercalate
      (([(nA.toNat >>> 24) &&& 0xff, (nA.toNat >>> 16) &&& 0xff, (nA.toNat >>> 8) &&& 0xff,
        (nA.toNat >>> 0) &&& 0xff]).map (Nat.toDigits 10)) := by
    simp [ipv4Text]
  have hparse := @parseIpv4_printed [(nA.toNat >>> 24) &&& 0xff, (nA.toNat >>> 16) &&& 0xff,
    (nA.toNat >>> 8) &&& 0xff, (nA.toNat >>> 0) &&& 0xff] rfl (by simp [octet_lt])
  have hdot : '.' ∈ ipv4Text nA := by
    rw [ipv4Text, List.intercalate_cons_cons]
    simp
  have hchars : ∀ c ∈ ipv4Text nA, c = '.' ∨ ∃ n : Nat, c ∈ Nat.toDigits 10 n := by
    intro c hc
    rw [htext] at hc
    rcases mem_of_mem_intercalate hc with hc | ⟨field, hfield, hc⟩
    · exact .inl hc
    · obtain ⟨nValue, -, rfl⟩ := List.mem_map.mp hfield
      exact .inr ⟨nValue, hc⟩
  rw [← htext] at hparse
  have hstrip : strip (ipv4Text nA) = ipv4Text nA := by
    apply strip_eq_self
    intro c hc
    rcases hchars c hc with rfl | ⟨n, hn⟩
    · rfl
    · rw [← setNumber_natCast] at hn
      exact not_isSpace_of_mem_setNumber hn
  have hcolon : ':' ∉ ipv4Text nA := by
    intro hc
    rcases hchars ':' hc with h | ⟨n, hn⟩
    · exact absurd h (by decide)
    · exact notMem_decimal n (by decide) (by decide) hn
  have hvalue : (((((0 <<< 8 + ((nA.toNat >>> 24) &&& 0xff)) <<< 8 +
      ((nA.toNat >>> 16) &&& 0xff)) <<< 8) + ((nA.toNat >>> 8) &&& 0xff)) <<< 8) +
        ((nA.toNat >>> 0) &&& 0xff) = nA.toNat := octets_eq nA.toNat_lt
  unfold parse parseAsIpv4
  dsimp only
  rw [hstrip, if_neg hcolon, if_pos hdot, hparse]
  simp only [List.foldl_cons, List.foldl_nil, hvalue, Option.map_some, Option.getD_some,
    UInt32.ofNat_toNat]

/-- Either printer's text of an address is parsed as an equal address. -/
theorem parse_toString (aIp6 : List UInt8) {address : IpAddress} (hknown : address ≠ unknown) :
    parse aIp6 address.toString = address ∧ parse aIp6 address.toCharString = address := by
  cases address with
  | unknown => exact absurd rfl hknown
  | ipv4 nA => exact ⟨parse_ipv4Text aIp6 nA, parse_ipv4Text aIp6 nA⟩
  | ipv6 objA6 =>
    constructor
    · rw [toString, stringOfGroups_eq (length_groups objA6)]
      exact parse_printed aIp6 objA6 (by simp)
    · rw [toCharString, charStringOfGroups_eq (length_groups objA6)]
      exact parse_printed aIp6 objA6 (by simp)

/-- `1:0:0:2:0:0:3:4`, of which the printers shorten different runs. -/
theorem parse_toString_twoEqualRuns :
    parse [] (ipv6 twoEqualRuns).toString = ipv6 twoEqualRuns ∧
      parse [] (ipv6 twoEqualRuns).toCharString = ipv6 twoEqualRuns :=
  parse_toString [] (by decide)

end ImsStack.Platform.IpAddress
