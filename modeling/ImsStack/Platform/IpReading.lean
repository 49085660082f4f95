import ImsStack.Platform.IpGrammar

/-!
Which texts the parser accepts as IPv6 addresses, and that those of an address are read as it.
-/

namespace ImsStack.Platform.IpAddress

open AString Numerals Tokens Library.OptionTraverse

/-- The fields of a text that the parser accepts. -/
structure Accepts (first : Chars) (inner : List Chars) (last : Chars) : Prop where
  fields : FieldsAre IsNumber IsIpv4 first inner last
  ne_nil : inner ≠ []
  length_le : inner.length ≤ 6
  none_missing : inner.count [] = 0 → width inner last ≤ 8
  twice_missing : 2 ≤ inner.count [] → 8 ≤ width inner last

theorem length_of_lastBytes?_eq {last previous : Chars} {bytes : List UInt8}
    (h : lastBytes? last previous = some bytes) : bytes.length = 2 + 2 * quads last := by
  unfold lastBytes? at h
  unfold quads
  split at h
  · next hempty =>
    rw [if_pos (.inl hempty)]
    split at h
    · obtain rfl := Option.some.inj h
      rfl
    · exact absurd h (by simp)
  · next hne =>
    cases hgroup : groupBytes? last with
    | some group =>
      rw [hgroup] at h
      obtain rfl := Option.some.inj h
      rw [if_pos (.inr rfl), length_of_groupBytes? hgroup]
    | none =>
      rw [hgroup] at h
      obtain ⟨nIp4, -, rfl⟩ := Option.map_eq_some_iff.mp h
      rw [if_neg (by simp [hne])]
      rfl

theorem reducedCount_eq {last : Chars} {bytes : List UInt8}
    (hlength : bytes.length = 2 + 2 * quads last) (nCount : Nat) :
    reducedCount nCount bytes = 9 - nCount - quads last := by
  have hle := quads_le_one last
  unfold reducedCount
  split <;> omega

/-- Each empty element inside the address stands for the same number of groups. -/
theorem length_of_mapM_innerBytes? {nReduced : Nat} {inner : List Chars}
    {middle : List (List UInt8)} (h : inner.mapM (innerBytes? nReduced) = some middle) :
    middle.flatten.length + 2 * inner.count [] =
      2 * inner.length + 2 * (nReduced * inner.count []) := by
  induction inner generalizing middle with
  | nil =>
    obtain rfl : middle = [] := by simpa using h.symm
    rfl
  | cons field inner ih =>
    obtain ⟨bytes, middle, hbytes, hmiddle, rfl⟩ := mapM_cons_eq_some_iff.mp h
    have hrest := ih hmiddle
    rw [List.flatten_cons, List.length_append, List.length_cons]
    unfold innerBytes? at hbytes
    split at hbytes
    · next hempty =>
      obtain rfl := Option.some.inj hbytes
      rw [hempty, List.count_cons_self, List.length_replicate, Nat.mul_add nReduced]
      omega
    · next hne =>
      rw [List.count_cons_of_ne hne, length_of_groupBytes? hbytes]
      omega

theorem fits_iff {m e q : Nat} (hpositive : 1 ≤ m) (hm : m ≤ 6) (hq : q ≤ 1) (he : e ≤ m)
    {middle : Nat} (hmiddle : middle + 2 * e = 2 * m + 2 * ((7 - m - q) * e)) :
    2 + middle + (2 + 2 * q) ≤ 16 ↔ (e = 0 → m + 2 + q ≤ 8) ∧ (2 ≤ e → 8 ≤ m + 2 + q) := by
  obtain ⟨r, hr⟩ : ∃ r, r = 7 - m - q := ⟨_, rfl⟩
  rw [← hr] at hmiddle
  rcases Nat.eq_zero_or_pos r with rfl | hpos
  · omega
  · obtain ⟨s, rfl⟩ : ∃ s, r = s + 1 := ⟨r - 1, by omega⟩
    rw [Nat.add_mul, Nat.one_mul] at hmiddle
    -- with one group missing for each empty element the bytes just fit
    rcases Nat.lt_or_ge e 2 with hlt | hge
    · obtain rfl | rfl : e = 0 ∨ e = 1 := by omega
      · omega
      · omega
    · have hmul : s * 2 ≤ s * e := Nat.mul_le_mul_left s hge
      constructor
      · omega
      · rintro ⟨-, htwice⟩
        have hs : s = 0 := by
          have := htwice hge
          omega
        rw [hs, Nat.zero_mul] at hmiddle
        omega

theorem innerBytes?_isSome_iff (nReduced : Nat) (field : Chars) :
    (∃ bytes, innerBytes? nReduced field = some bytes) ↔ field = [] ∨ IsNumber field := by
  rw [isNumber_iff, ← Option.isSome_iff_exists]
  unfold innerBytes?
  split
  · next hempty => simp [hempty]
  · next hne => simp [hne]

theorem fieldsAre_iff {first last : Chars} {inner : List Chars} (hinner : inner ≠ [])
    (nReduced : Nat) :
    FieldsAre IsNumber IsIpv4 first inner last ↔
      (∃ head, headBytes? first (inner.head hinner) = some head) ∧
        (∃ middle, inner.mapM (innerBytes? nReduced) = some middle) ∧
        ∃ tail, lastBytes? last (inner.getLast hinner) = some tail := by
  have hhead : (∃ head, headBytes? first (inner.head hinner) = some head) ↔
      (first = [] ∨ IsNumber first) ∧ (first = [] → inner.head? = some []) := by
    rw [isNumber_iff, ← Option.isSome_iff_exists, List.head?_eq_some_head hinner]
    unfold headBytes?
    split
    · next hempty => split <;> simp_all
    · next hne => simp [hne]
  have htail : (∃ tail, lastBytes? last (inner.getLast hinner) = some tail) ↔
      (last = [] ∨ IsNumber last ∨ IsIpv4 last) ∧ (last = [] → inner.getLast? = some []) := by
    rw [isNumber_iff, ← Option.isSome_iff_exists, List.getLast?_eq_some_getLast hinner, IsIpv4]
    unfold lastBytes?
    split
    · next hempty => split <;> simp_all
    · next hne => cases groupBytes? last <;> simp [hne]
  simp only [hhead, htail, exists_mapM_eq_some_iff, innerBytes?_isSome_iff]
  constructor
  · intro h
    exact ⟨⟨h.first_eq, h.next⟩, h.inner_eq, h.last_eq, h.previous⟩
  · rintro ⟨⟨hfirst, hnext⟩, hinner, hlast, hprevious⟩
    exact ⟨hnext, hprevious, hfirst, hinner, hlast⟩

theorem exists_ends {fields : List Chars} (hlength : 3 ≤ fields.length) :
    ∃ first inner last, fields = first :: inner ++ [last] ∧ inner ≠ [] := by
  obtain ⟨first, rest, rfl⟩ := List.exists_cons_of_ne_nil (List.ne_nil_of_length_pos
    (Nat.lt_of_lt_of_le (by decide : 0 < 3) hlength))
  rcases List.eq_nil_or_concat rest with rfl | ⟨inner, last, rfl⟩
  · exact absurd hlength (by simp)
  · refine ⟨first, inner, last, by simp, ?_⟩
    rintro rfl
    exact absurd hlength (by simp)

theorem length_le_iff {last : Chars} {inner : List Chars} {head tail : List UInt8}
    {middle : List (List UInt8)} (hinner : inner ≠ []) (hle : inner.length ≤ 6)
    (hhead : head.length = 2) (htail : tail.length = 2 + 2 * quads last)
    (hmiddle : inner.mapM (innerBytes? (reducedCount (inner.length + 2) tail).toNat) = some middle) :
    (head ++ middle.flatten ++ tail).length ≤ 16 ↔
      (inner.count [] = 0 → width inner last ≤ 8) ∧
        (2 ≤ inner.count [] → 8 ≤ width inner last) := by
  have hlength := length_of_mapM_innerBytes? hmiddle
  have hreduced : ((9 : Int) - ((inner.length + 2 : Nat) : Int) - quads last).toNat =
      7 - inner.length - quads last := by omega
  rw [reducedCount_eq htail, hreduced] at hlength
  rw [List.length_append, List.length_append, hhead, htail]
  exact fits_iff (List.length_pos_of_ne_nil hinner) hle (quads_le_one last)
    List.count_le_length hlength

theorem parseIpv6_isSome_iff {text : Chars} (pIp6 : List UInt8) :
    (∃ bytes, parseIpv6 text pIp6 = some bytes) ↔
      ∃ first inner last, split ':' text = first :: inner ++ [last] ∧ Accepts first inner last := by
  have hmap : (∃ bytes, parseIpv6 text pIp6 = some bytes) ↔
      (3 ≤ (split ':' text).length ∧ (split ':' text).length ≤ 8) ∧
        ∃ cursor, parseElements (split ':' text) (split ':' text).length
          ⟨9 - (split ':' text).length, []⟩ = some cursor := by
    unfold parseIpv6
    dsimp only
    split
    · next hout =>
      simp only [reduceCtorEq, exists_false, false_iff, not_and]
      omega
    · next hin =>
      simp only [Option.map_eq_some_iff, exists_comm (α := List UInt8)]
      constructor
      · rintro ⟨cursor, bytes, hcursor, -⟩
        exact ⟨by omega, cursor, hcursor⟩
      · rintro ⟨-, cursor, hcursor⟩
        exact ⟨cursor, _, hcursor, rfl⟩
  rw [hmap]
  constructor
  · rintro ⟨⟨hthree, height⟩, cursor, hcursor⟩
    obtain ⟨first, inner, last, hsplit, hinner⟩ := exists_ends hthree
    rw [hsplit] at hcursor height
    obtain ⟨head, middle, tail, hhead, htail, hmiddle, hfits, -⟩ :=
      (parseElements_eq_some_iff hinner).mp hcursor
    have hle : inner.length ≤ 6 := by
      simp only [List.cons_append, List.length_cons, List.length_append, List.length_nil] at height
      omega
    have hcount := (length_le_iff hinner hle (length_of_headBytes? hhead)
      (length_of_lastBytes?_eq htail) hmiddle).mp hfits
    exact ⟨first, inner, last, hsplit,
      ⟨(fieldsAre_iff hinner _).mpr ⟨⟨head, hhead⟩, ⟨middle, hmiddle⟩, tail, htail⟩, hinner, hle,
        hcount.1, hcount.2⟩⟩
  · rintro ⟨first, inner, last, hsplit, haccepts⟩
    have hinner := haccepts.ne_nil
    have hpositive := List.length_pos_of_ne_nil hinner
    have hle := haccepts.length_le
    obtain ⟨-, -, tail, htail⟩ := (fieldsAre_iff hinner 0).mp haccepts.fields
    obtain ⟨⟨head, hhead⟩, ⟨middle, hmiddle⟩, -⟩ :=
      (fieldsAre_iff hinner (reducedCount (inner.length + 2) tail).toNat).mp haccepts.fields
    have hfits := (length_le_iff hinner hle (length_of_headBytes? hhead)
      (length_of_lastBytes?_eq htail) hmiddle).mpr ⟨haccepts.none_missing, haccepts.twice_missing⟩
    rw [hsplit]
    refine ⟨?_, _, (parseElements_eq_some_iff hinner).mpr
      ⟨head, middle, tail, hhead, htail, hmiddle, hfits, rfl⟩⟩
    simp only [List.cons_append, List.length_cons, List.length_append, List.length_nil]
    omega

theorem mapM_innerBytes?_groups {fields : List Chars} (hgroups : ∀ group ∈ fields, IsGroup group)
    (nReduced : Nat) :
    fields.mapM (innerBytes? nReduced) =
      some (fields.map fun field => groupBytes (groupValue field)) := by
  induction fields with
  | nil => rfl
  | cons field fields ih =>
    obtain ⟨hfield, hfields⟩ := List.forall_mem_cons.mp hgroups
    rw [mapM_cons, ih hfields, innerBytes?, if_neg hfield.1, groupBytes?_of_isGroup hfield]
    rfl

theorem bytesOfGroups_eq (fields : List Chars) :
    bytesOfGroups fields = (fields.map fun field => groupBytes (groupValue field)).flatten :=
  List.flatMap_def

theorem headBytes?_of_isGroup {first : Chars} (hfirst : IsGroup first) (next : Chars) :
    headBytes? first next = some (groupBytes (groupValue first)) := by
  rw [headBytes?, if_neg hfirst.1, groupBytes?_of_isGroup hfirst]

/-- The zeroes that the parser writes for an empty field at an end of the text. -/
def endZeroes (field : Chars) : Nat := if field = [] then 2 else 0

theorem Front.headBytes? {first : Chars} {before : List Chars} {head : List UInt8}
    (h : Front first before head) (behind : List Chars) :
    ∃ bytes, headBytes? first ((before ++ [] :: behind).head (by simp)) = some bytes ∧
      bytes ++ bytesOfGroups before = head ++ List.replicate (endZeroes first) 0 ∧
      head.length + endZeroes first = 2 * before.length + 2 := by
  cases h with
  | nothing hfirst hbefore =>
    subst hfirst hbefore
    exact ⟨[0, 0], rfl, rfl, rfl⟩
  | groups hfirst =>
    refine ⟨_, headBytes?_of_isGroup hfirst _, ?_, ?_⟩
    · rw [endZeroes, if_neg hfirst.1, List.replicate_zero, List.append_nil]
      rfl
    · rw [endZeroes, if_neg hfirst.1, length_bytesOfGroups, List.length_cons]
      omega

theorem Back.lastBytes? {behind : List Chars} {last : Chars} {tail : List UInt8}
    (h : Back behind last tail) (before : List Chars) :
    ∃ bytes, lastBytes? last ((before ++ [] :: behind).getLast (by simp)) = some bytes ∧
      bytesOfGroups behind ++ bytes = List.replicate (endZeroes last) 0 ++ tail ∧
      tail.length + endZeroes last = 2 * behind.length + 2 + 2 * quads last := by
  cases h with
  | nothing hlast hbehind =>
    subst hlast hbehind
    exact ⟨[0, 0], by simp [IpAddress.lastBytes?], rfl, rfl⟩
  | groups hlast =>
    refine ⟨_, hlast.lastBytes? _, ?_, ?_⟩
    · rw [endZeroes, if_neg hlast.ne_nil, List.replicate_zero, List.nil_append]
    · rw [endZeroes, if_neg hlast.ne_nil, List.length_append, hlast.length_eq, length_bytesOfGroups]
      omega

theorem Spells.parseElements {first last : Chars} {inner : List Chars} {bytes : List UInt8}
    (h : Spells first inner last bytes) (hinner : inner ≠ []) (hcount : inner.length ≤ 6) :
    bytes.length = 16 ∧ ∃ nReducedCount, parseElements (first :: inner ++ [last])
        (first :: inner ++ [last]).length ⟨9 - (first :: inner ++ [last]).length, []⟩ =
      some ⟨nReducedCount, bytes⟩ := by
  cases h with
  | @full tail hfirst hgroups hlast hlength =>
    refine ⟨hlength, reducedCount (inner.length + 2) tail,
      (parseElements_eq_some_iff hinner).mpr ⟨_, _, tail, headBytes?_of_isGroup hfirst _,
        hlast.lastBytes? _, mapM_innerBytes?_groups hgroups _, ?_, ?_⟩⟩
    · rw [← bytesOfGroups_eq]
      exact Nat.le_of_eq hlength
    · rw [← bytesOfGroups_eq]
      rfl
  | @short before behind head tail heq hbefore hbehind hfront hback hlength =>
    subst heq
    obtain ⟨headBytes, hhead, hheadBytes, hheadLength⟩ := hfront.headBytes? behind
    obtain ⟨tailBytes, htail, htailBytes, htailLength⟩ := hback.lastBytes? before
    have hreduced := reducedCount_eq (length_of_lastBytes?_eq htail)
      ((before ++ [] :: behind).length + 2)
    rw [List.length_append, List.length_cons] at hcount hreduced
    obtain ⟨n, hn⟩ : ∃ n, n = 6 - before.length - behind.length - quads last := ⟨_, rfl⟩
    have hnumber : (reducedCount ((before ++ [] :: behind).length + 2) tailBytes).toNat = n := by
      rw [List.length_append, List.length_cons, hreduced]
      omega
    have hmiddle : (before ++ [] :: behind).mapM (innerBytes? n) =
        some (before.map (fun field => groupBytes (groupValue field)) ++
          List.replicate (2 * n) 0 :: behind.map fun field => groupBytes (groupValue field)) := by
      refine mapM_append_eq_some_iff.mpr ⟨_, _, mapM_innerBytes?_groups hbefore n, ?_, rfl⟩
      exact mapM_cons_eq_some_iff.mpr ⟨_, _, rfl, mapM_innerBytes?_groups hbehind n, rfl⟩
    have hquads := quads_le_one last
    -- the zeroes written for the empty fields are those that are missing
    have hzeroes : endZeroes first + 2 * n + endZeroes last = 16 - head.length - tail.length := by
      omega
    have hbytes : headBytes ++ (before.map (fun field => groupBytes (groupValue field)) ++
        List.replicate (2 * n) 0 :: behind.map fun field => groupBytes (groupValue field)).flatten ++
          tailBytes =
        head ++ List.replicate (16 - head.length - tail.length) 0 ++ tail := by
      rw [List.flatten_append, List.flatten_cons, ← bytesOfGroups_eq, ← bytesOfGroups_eq, ← hzeroes,
        List.replicate_add, List.replicate_add]
      calc headBytes ++ (bytesOfGroups before ++ (List.replicate (2 * n) 0 ++ bytesOfGroups behind)) ++
            tailBytes
          = (headBytes ++ bytesOfGroups before) ++ List.replicate (2 * n) 0 ++
              (bytesOfGroups behind ++ tailBytes) := by simp only [List.append_assoc]
        _ = head ++ (List.replicate (endZeroes first) 0 ++ List.replicate (2 * n) 0 ++
              List.replicate (endZeroes last) 0) ++ tail := by
          rw [hheadBytes, htailBytes]
          simp only [List.append_assoc]
    have hsixteen : (head ++ List.replicate (16 - head.length - tail.length) 0 ++ tail).length =
        16 := by
      rw [List.length_append, List.length_append, List.length_replicate]
      omega
    refine ⟨hsixteen, reducedCount ((before ++ [] :: behind).length + 2) tailBytes,
      (parseElements_eq_some_iff hinner).mpr
      ⟨headBytes, _, tailBytes, hhead, htail, by rw [hnumber]; exact hmiddle, ?_, ?_⟩⟩
    · rw [hbytes]
      exact Nat.le_of_eq hsixteen
    · rw [hbytes]

/-- The text that `Parse` looks at. -/
def addressText (strAddress : Chars) : Chars := removeBrackets (strip strAddress)

theorem setAddress_eq {objA6 : Ipv6Address} {pAddress : List UInt8} (h : pAddress = objA6.aIp6) :
    setAddress pAddress = objA6 := by
  subst h
  obtain ⟨bytes, hlength⟩ := objA6
  have hbytes : List.ofFn (fun i : Fin 16 => bytes.getD i 0) = bytes := by
    apply List.ext_getElem
    · rw [List.length_ofFn, hlength]
    · intro i hi hi'
      rw [List.getElem_ofFn, List.getD_eq_getElem?_getD, List.getElem?_eq_getElem hi']
      rfl
  unfold setAddress
  congr

theorem parse_eq_ipv6_iff {aIp6 : List UInt8} {s : Chars} {objA6 : Ipv6Address} :
    parse aIp6 s = ipv6 objA6 ↔
      ∃ bytes, parseIpv6 (addressText s) aIp6 = some bytes ∧ setAddress bytes = objA6 := by
  have hipv4 : ∀ text, parseAsIpv4 text ≠ ipv6 objA6 := by
    intro text h
    unfold parseAsIpv4 at h
    split at h
    · cases hread : parseIpv4 text <;> simp [hread] at h
    · exact absurd h (by simp)
  unfold parse addressText
  dsimp only
  split
  · cases hread : parseIpv6 (removeBrackets (strip s)) aIp6 with
    | none => simp [hipv4]
    | some bytes => simp
  · next hcolon =>
    constructor
    · intro h
      exact absurd h (hipv4 _)
    · rintro ⟨bytes, hbytes, -⟩
      obtain ⟨first, inner, last, hsplit, -⟩ := (parseIpv6_isSome_iff aIp6).mp ⟨bytes, hbytes⟩
      have hmem : ':' ∉ removeBrackets (strip s) := by
        intro hmem
        unfold removeBrackets at hmem
        split at hmem
        · exact hcolon (List.mem_of_mem_drop (List.mem_of_mem_take hmem))
        · exact hcolon hmem
      rw [split_of_not_mem hmem] at hsplit
      exact absurd (congrArg List.length hsplit) (by simp)

/-- A text that denotes an address is read as that address unless it has nine fields. -/
theorem Denotes.parse {s : Chars} {bytes : List UInt8} (h : Denotes (addressText s) bytes)
    (hcount : ((addressText s).splitOn ':').length ≤ 8) (aIp6 : List UInt8) {objA6 : Ipv6Address}
    (hbytes : bytes = objA6.aIp6) : parse aIp6 s = ipv6 objA6 := by
  obtain ⟨first, inner, last, hsplitOn, hinner, hspells⟩ := denotes_iff.mp h
  have hplain := hspells.fieldsAre.plain
  rw [← hsplitOn] at hplain
  have hsplit := split_eq_splitOn hplain
  have hlength : ((addressText s).splitOn ':').length = inner.length + 2 := by
    rw [hsplitOn]
    simp
  have hpositive := List.length_pos_of_ne_nil hinner
  obtain ⟨hsixteen, nReducedCount, hparse⟩ := hspells.parseElements hinner (by omega)
  refine parse_eq_ipv6_iff.mpr ⟨bytes, ?_, setAddress_eq hbytes⟩
  unfold parseIpv6
  dsimp only
  rw [hsplit, if_neg (by omega), hsplitOn, hparse, Option.map_some, Ipv6Cursor.nMaxCount, hsixteen]
  rfl

end ImsStack.Platform.IpAddress
