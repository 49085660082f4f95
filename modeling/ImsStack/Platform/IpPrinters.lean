import ImsStack.Platform.IpAddress
import ImsStack.Platform.Tokens

/-!
The two printers of an IPv6 address.  Both print fields with colons between them: the groups, or
the groups around the group of zeroes that the printer shortens.  They choose that group by
different loops.
-/

namespace ImsStack.Platform.IpAddress

open AString Numerals Tokens

theorem hexText_ne_nil (nValue : Nat) : hexText nValue ≠ [] := Nat.toDigits_ne_nil

theorem colon_notMem_hexText (nValue : Nat) : ':' ∉ hexText nValue :=
  not_mem_hexDigits nValue (by decide)

/-- The fields of an address, without those that lie in the group of zeroes. -/
def shortFields (fields : List Chars) (objGoZ : GroupOfZeroes) : List Chars :=
  (if objGoZ.nStart = 0 then [[]] else fields.take objGoZ.nStart) ++
    [] :: (if objGoZ.nEnd = 7 then [[]] else fields.drop (objGoZ.nEnd + 1))

def printedFields (fields : List Chars) : Option GroupOfZeroes → List Chars
  | none => fields
  | some objGoZ => shortFields fields objGoZ

/-- The group of zeroes that `ToString` shortens. -/
def stringChoice (zeroes : List Bool) : Option GroupOfZeroes :=
  ((groupsOfZeroes zeroes).head?.map fun objFirst =>
    GroupOfZeroes.largest objFirst (groupsOfZeroes zeroes)).filter fun objGoZ =>
      objGoZ.nStart ≠ objGoZ.nEnd

/-- The group of zeroes that `ToCharString` shortens. -/
def charStringChoice (zeroes : List Bool) : Option GroupOfZeroes :=
  ((groupsOfZeroes zeroes).getLast?.map fun objLast =>
    GroupOfZeroes.largest objLast (groupsOfZeroes zeroes)).filter fun objGoZ =>
      objGoZ.nStart ≠ objGoZ.nEnd ∨ objGoZ.nStart ≠ 0 ∧ objGoZ.nStart ≠ 7

theorem printed_around (before behind : List Chars) (field : Chars) :
    before.flatMap (· ++ [':']) ++ field ++ behind.flatMap (':' :: ·) =
      [':'].intercalate (before ++ field :: behind) := by
  induction before with
  | nil =>
    induction behind generalizing field with
    | nil => simp
    | cons next behind ih =>
      rw [List.nil_append, List.intercalate_cons_cons, ← List.nil_append (next :: behind), ← ih]
      simp
  | cons first before ih =>
    cases before with
    | nil => simpa using ih
    | cons second before =>
      rw [List.cons_append, List.cons_append, List.intercalate_cons_cons, ← List.cons_append, ← ih]
      simp

/-- A group of zeroes of an address. -/
def Lies (zeroes : List Bool) (objGoZ : GroupOfZeroes) : Prop :=
  objGoZ.nStart ≤ objGoZ.nEnd ∧ objGoZ.nEnd ≤ 7 ∧ zeroes[objGoZ.nStart]? = some true

instance (zeroes : List Bool) (objGoZ : GroupOfZeroes) : Decidable (Lies zeroes objGoZ) :=
  inferInstanceAs (Decidable (_ ∧ _ ∧ _))

theorem textBefore_short (aTmp : List Nat) {objGoZ : GroupOfZeroes}
    (hshort : objGoZ.nStart = 0 → objGoZ.nEnd ≠ 0) :
    textBefore aTmp objGoZ =
      (if objGoZ.nStart = 0 then [[]] else (aTmp.map hexText).take objGoZ.nStart).flatMap
        (· ++ [':']) := by
  unfold textBefore
  by_cases hstart : objGoZ.nStart = 0
  · simp [hstart, hshort hstart]
  · simp [hstart, ← List.map_take, List.flatMap_map]

theorem textBehind_short (aTmp : List Nat) {objGoZ : GroupOfZeroes}
    (hshort : objGoZ.nEnd = 7 → objGoZ.nStart ≠ 7) :
    textBehind aTmp objGoZ =
      (if objGoZ.nEnd = 7 then [[]] else (aTmp.map hexText).drop (objGoZ.nEnd + 1)).flatMap
        (':' :: ·) := by
  unfold textBehind
  by_cases hend : objGoZ.nEnd = 7
  · simp [hend, hshort hend]
  · simp [hend, ← List.map_drop, List.flatMap_map]

theorem text_short (aTmp : List Nat) {objGoZ : GroupOfZeroes}
    (hstart : objGoZ.nStart = 0 → objGoZ.nEnd ≠ 0) (hend : objGoZ.nEnd = 7 → objGoZ.nStart ≠ 7) :
    textBefore aTmp objGoZ ++ textBehind aTmp objGoZ =
      [':'].intercalate (shortFields (aTmp.map hexText) objGoZ) := by
  rw [textBefore_short aTmp hstart, textBehind_short aTmp hend, shortFields, ← printed_around,
    List.append_nil]

theorem text_single (aTmp : List Nat) {objGoZ : GroupOfZeroes} (hlength : aTmp.length = 8)
    (hsingle : objGoZ.nStart = objGoZ.nEnd) (hzero : aTmp[objGoZ.nStart]? = some 0) :
    textBefore aTmp objGoZ ++
        (if objGoZ.nStart = objGoZ.nEnd ∧ objGoZ.nStart ≠ 0 ∧ objGoZ.nStart ≠ 7 then ['0'] else []) ++
        textBehind aTmp objGoZ = longText aTmp := by
  obtain ⟨n, m⟩ := objGoZ
  obtain rfl : n = m := hsingle
  have hsplit : aTmp = aTmp.take n ++ 0 :: aTmp.drop (n + 1) := by
    obtain ⟨hn, hget⟩ := List.getElem?_eq_some_iff.mp hzero
    rw [← hget, ← List.drop_eq_getElem_cons hn, List.take_append_drop]
  have htext : longText aTmp =
      (aTmp.take n).flatMap (fun nValue => hexText nValue ++ [':']) ++ ['0'] ++
        (aTmp.drop (n + 1)).flatMap fun nValue => ':' :: hexText nValue := by
    have haround := printed_around ((aTmp.take n).map hexText) ((aTmp.drop (n + 1)).map hexText) ['0']
    rw [List.flatMap_map, List.flatMap_map] at haround
    rw [haround, longText]
    conv_lhs => rw [hsplit, List.map_append, List.map_cons]
    rfl
  rw [htext]
  unfold textBefore textBehind
  by_cases hstart : n = 0
  · simp [hstart]
  · by_cases hend : n = 7
    · simp [hend, List.drop_of_length_le (Nat.le_of_eq hlength)]
    · simp [hstart, hend]

/-- A property of every list of `n` truth values, one value after the other. -/
def Everywhere : Nat → (List Bool → Prop) → Prop
  | 0, P => P []
  | n + 1, P => ∀ b : Bool, Everywhere n fun zeroes => P (b :: zeroes)

instance Everywhere.decidable : (n : Nat) → (P : List Bool → Prop) → [DecidablePred P] →
    Decidable (Everywhere n P)
  | 0, P, _ => inferInstanceAs (Decidable (P []))
  | n + 1, P, _ =>
    have (b : Bool) : Decidable (Everywhere n fun zeroes => P (b :: zeroes)) :=
      Everywhere.decidable n _
    inferInstanceAs (Decidable (∀ b : Bool, Everywhere n fun zeroes => P (b :: zeroes)))

theorem Everywhere.holds {n : Nat} {P : List Bool → Prop} (h : Everywhere n P)
    {zeroes : List Bool} (hlength : zeroes.length = n) : P zeroes := by
  induction n generalizing P zeroes with
  | zero => rwa [List.eq_nil_of_length_eq_zero hlength]
  | succ n ih =>
    obtain ⟨b, zeroes, rfl⟩ := List.exists_cons_of_length_eq_add_one hlength
    exact ih (h b) (Nat.succ.inj hlength)

theorem largest_lies {zeroes : List Bool} (hlength : zeroes.length = 8) :
    (∀ objFirst ∈ (groupsOfZeroes zeroes).head?,
      Lies zeroes (GroupOfZeroes.largest objFirst (groupsOfZeroes zeroes))) ∧
    ∀ objLast ∈ (groupsOfZeroes zeroes).getLast?,
      Lies zeroes (GroupOfZeroes.largest objLast (groupsOfZeroes zeroes)) := by
  have h : Everywhere 8 fun zeroes =>
      (∀ objFirst ∈ (groupsOfZeroes zeroes).head?,
        Lies zeroes (GroupOfZeroes.largest objFirst (groupsOfZeroes zeroes))) ∧
      ∀ objLast ∈ (groupsOfZeroes zeroes).getLast?,
        Lies zeroes (GroupOfZeroes.largest objLast (groupsOfZeroes zeroes)) := by
    decide +kernel
  exact h.holds hlength

theorem stringOfGroups_eq {aTmp : List Nat} (hlength : aTmp.length = 8) :
    stringOfGroups aTmp =
      [':'].intercalate (printedFields (aTmp.map hexText) (stringChoice (aTmp.map (· == 0)))) := by
  have hlies := (@largest_lies (aTmp.map (· == 0)) (by simpa using hlength)).1
  unfold stringOfGroups stringChoice
  dsimp only
  cases hfirst : (groupsOfZeroes (aTmp.map (· == 0))).head? with
  | none => rfl
  | some objFirst =>
    obtain ⟨hle, hseven, hzero⟩ := hlies objFirst hfirst
    rw [Option.map_some]
    dsimp only
    generalize GroupOfZeroes.largest objFirst (groupsOfZeroes (aTmp.map (· == 0))) = objGoZ at *
    by_cases hsingle : objGoZ.nStart = objGoZ.nEnd
    · rw [text_single aTmp hlength hsingle (by simpa using hzero), Option.filter_some,
        if_neg (by simpa using hsingle)]
      rfl
    · rw [if_neg fun h => hsingle h.1, List.append_nil, text_short aTmp (by omega) (by omega),
        Option.filter_some, if_pos (by simpa using hsingle)]
      rfl

/-- `ToCharString` prints the fields around the group of zeroes that it shortens. -/
theorem charStringOfGroups_eq {aTmp : List Nat} (hlength : aTmp.length = 8) :
    charStringOfGroups aTmp =
      [':'].intercalate
        (printedFields (aTmp.map hexText) (charStringChoice (aTmp.map (· == 0)))) := by
  have hlies := (@largest_lies (aTmp.map (· == 0)) (by simpa using hlength)).2
  unfold charStringOfGroups charStringChoice
  dsimp only
  cases hlast : (groupsOfZeroes (aTmp.map (· == 0))).getLast? with
  | none => rfl
  | some objLast =>
    obtain ⟨hle, hseven, hzero⟩ := hlies objLast hlast
    rw [Option.map_some]
    dsimp only
    generalize GroupOfZeroes.largest objLast (groupsOfZeroes (aTmp.map (· == 0))) = objGoZ at *
    by_cases hplain : objGoZ.nStart = objGoZ.nEnd ∧ ¬(objGoZ.nStart ≠ 0 ∧ objGoZ.nStart ≠ 7)
    · have htext := text_single aTmp hlength hplain.1 (by simpa using hzero)
      rw [if_neg fun h => hplain.2 h.2, List.append_nil] at htext
      rw [htext, Option.filter_some, if_neg (by simpa using by omega)]
      rfl
    · rw [text_short aTmp (by omega) (by omega), Option.filter_some,
        if_pos (by simpa using by omega)]
      rfl

/-- Which of the printed fields are empty. -/
def emptyFields : Option GroupOfZeroes → List Bool
  | none => List.replicate 8 false
  | some objGoZ =>
    (if objGoZ.nStart = 0 then [true] else List.replicate objGoZ.nStart false) ++
      true :: (if objGoZ.nEnd = 7 then [true] else List.replicate (7 - objGoZ.nEnd) false)

/-- The lengths of the runs of zero groups, in the order of the address. -/
def zeroRuns (zeroes : List Bool) : List Nat :=
  ((zeroes.splitOn false).map List.length).filter (0 < ·)

/-- The last run of zero groups is shorter than another one, or it has two groups at least and no
other run is as long, or it is one group at the end of the address or, alone, at the beginning. -/
def SameRun (zeroes : List Bool) : Prop :=
  ∀ nLast ∈ (zeroRuns zeroes).getLast?,
    (∃ n ∈ zeroRuns zeroes, nLast < n) ∨ (1 < nLast ∧ (zeroRuns zeroes).count nLast = 1) ∨
      (nLast = 1 ∧
        (zeroes.getLast? = some true ∨ zeroRuns zeroes = [1] ∧ zeroes.head? = some true))

instance (zeroes : List Bool) : Decidable (SameRun zeroes) :=
  inferInstanceAs (Decidable (∀ nLast ∈ (zeroRuns zeroes).getLast?, _))

theorem choices_of_sameRun {zeroes : List Bool} (hlength : zeroes.length = 8) :
    (SameRun zeroes → stringChoice zeroes = charStringChoice zeroes) ∧
      (emptyFields (stringChoice zeroes) = emptyFields (charStringChoice zeroes) →
        SameRun zeroes) := by
  have h : Everywhere 8 fun zeroes =>
      (SameRun zeroes → stringChoice zeroes = charStringChoice zeroes) ∧
        (emptyFields (stringChoice zeroes) = emptyFields (charStringChoice zeroes) →
          SameRun zeroes) := by
    decide +kernel
  exact h.holds hlength

theorem map_isEmpty_hexText (aTmp : List Nat) :
    (aTmp.map hexText).map List.isEmpty = List.replicate aTmp.length false := by
  induction aTmp with
  | nil => rfl
  | cons nValue aTmp ih =>
    rw [List.map_cons, List.map_cons, ih, List.length_cons, List.replicate_succ,
      List.isEmpty_eq_false_iff.mpr (hexText_ne_nil nValue)]

/-- Which fields a printer leaves empty depends only on the group of zeroes that it shortens. -/
theorem map_isEmpty_printedFields {aTmp : List Nat} (hlength : aTmp.length = 8)
    {choice : Option GroupOfZeroes} (hrange : ∀ objGoZ ∈ choice, objGoZ.nStart ≤ 7) :
    (printedFields (aTmp.map hexText) choice).map List.isEmpty = emptyFields choice := by
  have htexts := map_isEmpty_hexText aTmp
  rw [hlength] at htexts
  cases choice with
  | none => exact htexts
  | some objGoZ =>
    have hstart := hrange objGoZ rfl
    unfold printedFields shortFields emptyFields
    rw [List.map_append, List.map_cons]
    congr 1
    · split
      · rfl
      · rw [List.map_take, htexts, List.take_replicate, Nat.min_eq_left (by omega)]
    · congr 1
      split
      · rfl
      · rw [List.map_drop, htexts, List.drop_replicate]
        congr 1
        omega

theorem forall_mem_printedFields {P : Chars → Prop} (hempty : P []) {aTmp : List Nat}
    (htext : ∀ nValue ∈ aTmp, P (hexText nValue)) (choice : Option GroupOfZeroes) :
    ∀ field ∈ printedFields (aTmp.map hexText) choice, P field := by
  have htexts : ∀ field ∈ aTmp.map hexText, P field := List.forall_mem_map.mpr htext
  intro field hfield
  cases choice with
  | none => exact htexts field hfield
  | some objGoZ =>
    rcases List.mem_append.mp hfield with hfield | hfield
    · split at hfield
      · obtain rfl := List.mem_singleton.mp hfield
        exact hempty
      · exact htexts field (List.mem_of_mem_take hfield)
    · rcases List.mem_cons.mp hfield with rfl | hfield
      · exact hempty
      · split at hfield
        · obtain rfl := List.mem_singleton.mp hfield
          exact hempty
        · exact htexts field (List.mem_of_mem_drop hfield)

theorem colon_notMem_printedFields (aTmp : List Nat) (choice : Option GroupOfZeroes) :
    ∀ field ∈ printedFields (aTmp.map hexText) choice, ':' ∉ field :=
  forall_mem_printedFields (by simp) (fun nValue _ => colon_notMem_hexText nValue) choice

theorem printedFields_ne_nil {aTmp : List Nat} (hlength : aTmp.length = 8)
    (choice : Option GroupOfZeroes) : printedFields (aTmp.map hexText) choice ≠ [] := by
  cases choice with
  | none =>
    intro h
    rw [printedFields, List.map_eq_nil_iff] at h
    simp [h] at hlength
  | some objGoZ => simp [printedFields, shortFields]

theorem splitOn_printed {aTmp : List Nat} (hlength : aTmp.length = 8)
    (choice : Option GroupOfZeroes) :
    ([':'].intercalate (printedFields (aTmp.map hexText) choice)).splitOn ':' =
      printedFields (aTmp.map hexText) choice :=
  List.splitOn_intercalate ':' (colon_notMem_printedFields aTmp choice)
    (printedFields_ne_nil hlength choice)

theorem choices_le {zeroes : List Bool} (hlength : zeroes.length = 8) :
    (∀ objGoZ ∈ stringChoice zeroes, objGoZ.nStart ≤ objGoZ.nEnd ∧ objGoZ.nEnd ≤ 7) ∧
      ∀ objGoZ ∈ charStringChoice zeroes, objGoZ.nStart ≤ objGoZ.nEnd ∧ objGoZ.nEnd ≤ 7 := by
  have hlies := largest_lies hlength
  constructor
  · intro objGoZ hchoice
    obtain ⟨hmap, -⟩ := Option.filter_eq_some_iff.mp hchoice
    obtain ⟨objFirst, hfirst, rfl⟩ := Option.map_eq_some_iff.mp hmap
    exact ⟨(hlies.1 objFirst hfirst).1, (hlies.1 objFirst hfirst).2.1⟩
  · intro objGoZ hchoice
    obtain ⟨hmap, -⟩ := Option.filter_eq_some_iff.mp hchoice
    obtain ⟨objLast, hlast, rfl⟩ := Option.map_eq_some_iff.mp hmap
    exact ⟨(hlies.2 objLast hlast).1, (hlies.2 objLast hlast).2.1⟩

theorem stringOfGroups_eq_charStringOfGroups_iff {aTmp : List Nat} (hlength : aTmp.length = 8) :
    stringOfGroups aTmp = charStringOfGroups aTmp ↔ SameRun (aTmp.map (· == 0)) := by
  have hzeroes : (aTmp.map (· == 0)).length = 8 := by simpa using hlength
  have hchoices := choices_of_sameRun hzeroes
  have hle := choices_le hzeroes
  rw [stringOfGroups_eq hlength, charStringOfGroups_eq hlength]
  constructor
  · intro htext
    have hfields := congrArg (·.splitOn ':') htext
    simp only [splitOn_printed hlength] at hfields
    apply hchoices.2
    rw [← map_isEmpty_printedFields hlength fun objGoZ h => (hle.1 objGoZ h).1.trans (hle.1 objGoZ h).2,
      ← map_isEmpty_printedFields hlength fun objGoZ h => (hle.2 objGoZ h).1.trans (hle.2 objGoZ h).2,
      hfields]
  · intro hsame
    rw [hchoices.1 hsame]

theorem length_groups (objA6 : Ipv6Address) : (groups objA6).length = 8 := by
  simp [groups]

/-- The two printers render the same text exactly when they shorten the same run of zero groups. -/
theorem toString_eq_toCharString_iff (address : IpAddress) :
    address.toString = address.toCharString ↔
      ∀ objA6, address = ipv6 objA6 → SameRun ((groups objA6).map (· == 0)) := by
  cases address with
  | unknown => simp [toString, toCharString]
  | ipv4 nA => simp [toString, toCharString]
  | ipv6 objA6 =>
    constructor
    · rintro htext _ ⟨⟩
      exact (stringOfGroups_eq_charStringOfGroups_iff (length_groups objA6)).mp htext
    · intro hsame
      exact (stringOfGroups_eq_charStringOfGroups_iff (length_groups objA6)).mpr (hsame objA6 rfl)

/-- `1:0:0:2:0:0:3:4`. -/
def twoEqualRuns : Ipv6Address :=
  setAddress [0, 1, 0, 0, 0, 0, 0, 2, 0, 0, 0, 0, 0, 3, 0, 4]

/-- Of two runs of the same length one printer shortens the first and the other the last. -/
theorem toString_ne_toCharString :
    (ipv6 twoEqualRuns).toString = "1::2:0:0:3:4".toList ∧
      (ipv6 twoEqualRuns).toCharString = "1:0:0:2::3:4".toList ∧
      (ipv6 twoEqualRuns).toString ≠ (ipv6 twoEqualRuns).toCharString := by
  decide

end ImsStack.Platform.IpAddress
