import ImsStack.Platform.IpReading

/-!
The texts that the parser takes for another address than they denote, or refuses.
-/

namespace ImsStack.Platform.IpAddress

open AString Numerals Tokens

/-- The fields of a text that denotes an address: eight groups, or fewer with one empty field
between them, which does not stand for no group. -/
structure WellFormed (first : Chars) (inner : List Chars) (last : Chars) : Prop where
  fields : FieldsAre IsGroup IsQuad first inner last
  count : inner.count [] = 0 ∧ width inner last = 8 ∨
    inner.count [] = 1 ∧ 2 * width inner last ≤ 16 + endZeroes first + endZeroes last

theorem count_nil_of_groups {fields : List Chars} (hgroups : ∀ group ∈ fields, IsGroup group) :
    fields.count [] = 0 := by
  apply List.count_eq_zero.mpr
  intro hempty
  exact (hgroups [] hempty).1 rfl

theorem Spells.wellFormed {first last : Chars} {inner : List Chars} {bytes : List UInt8}
    (h : Spells first inner last bytes) : WellFormed first inner last := by
  refine ⟨h.fieldsAre, ?_⟩
  cases h with
  | full hfirst hinner hlast hlength =>
    rw [List.length_append, length_bytesOfGroups, hlast.length_eq, List.length_cons] at hlength
    exact .inl ⟨count_nil_of_groups hinner, by unfold width; omega⟩
  | @short before behind head tail heq hbefore hbehind hfront hback hlength =>
    subst heq
    obtain ⟨-, -, -, hheadLength⟩ := hfront.headBytes? behind
    obtain ⟨-, -, -, htailLength⟩ := hback.lastBytes? before
    refine .inr ⟨?_, ?_⟩
    · rw [List.count_append, List.count_cons_self, count_nil_of_groups hbefore,
        count_nil_of_groups hbehind]
    · rw [width, List.length_append, List.length_cons]
      omega

theorem exists_around_nil {inner : List Chars} (hcount : inner.count [] = 1) :
    ∃ before behind, inner = before ++ [] :: behind ∧ [] ∉ before ∧ [] ∉ behind := by
  have hmem : [] ∈ inner := List.count_pos_iff.mp (by omega)
  obtain ⟨before, behind, rfl⟩ := List.append_of_mem hmem
  rw [List.count_append, List.count_cons_self] at hcount
  exact ⟨before, behind, rfl, List.count_eq_zero.mp (by omega), List.count_eq_zero.mp (by omega)⟩

theorem Front.exists_of_fields {first : Chars} {before behind : List Chars}
    (hfirst : first = [] ∨ IsGroup first) (hnot : [] ∉ before)
    (hnext : first = [] → (before ++ [] :: behind).head? = some []) :
    ∃ head, Front first before head := by
  rcases hfirst with hempty | hgroup
  · cases before with
    | nil => exact ⟨[], .nothing hempty rfl⟩
    | cons second before =>
      have hsecond : second = [] := by simpa using hnext hempty
      exact absurd (by simp [hsecond]) hnot
  · exact ⟨_, .groups hgroup⟩

theorem Back.exists_of_fields {last : Chars} {before behind : List Chars}
    (hlast : last = [] ∨ IsGroup last ∨ IsQuad last) (hnot : [] ∉ behind)
    (hprevious : last = [] → (before ++ [] :: behind).getLast? = some []) :
    ∃ tail, Back behind last tail := by
  rcases hlast with hempty | hfield
  · rcases List.eq_nil_or_concat behind with rfl | ⟨behind, previous, rfl⟩
    · exact ⟨[], .nothing hempty rfl⟩
    · have hmem : [] ∈ behind.concat previous := by
        have hgetLast := hprevious hempty
        rw [List.concat_eq_append, ← List.cons_append, ← List.append_assoc, List.getLast?_append,
          List.getLast?_singleton] at hgetLast
        simp [Option.some.inj hgetLast]
      exact absurd hmem hnot
  · obtain ⟨tail, htail⟩ := LastField.exists_of hfield
    exact ⟨_, .groups htail⟩

theorem WellFormed.exists_spells {first last : Chars} {inner : List Chars}
    (h : WellFormed first inner last) (hinner : inner ≠ []) : ∃ bytes, Spells first inner last bytes := by
  obtain ⟨hfields, hcount⟩ := h
  rcases hcount with ⟨hnone, hwidth⟩ | ⟨hone, hwidth⟩
  · have hnot : [] ∉ inner := List.count_eq_zero.mp hnone
    have hgroups : ∀ group ∈ inner, IsGroup group := by
      intro group hgroup
      refine (hfields.inner_eq group hgroup).resolve_left ?_
      rintro rfl
      exact hnot hgroup
    have hfirst : IsGroup first := by
      refine hfields.first_eq.resolve_left fun hempty => hnot ?_
      exact List.mem_of_head? (hfields.next hempty)
    have hlast : IsGroup last ∨ IsQuad last := by
      refine hfields.last_eq.resolve_left fun hempty => hnot ?_
      exact List.mem_of_getLast? (hfields.previous hempty)
    obtain ⟨tail, htail⟩ := LastField.exists_of hlast
    refine ⟨_, .full hfirst hgroups htail ?_⟩
    rw [List.length_append, length_bytesOfGroups, htail.length_eq, List.length_cons]
    unfold width at hwidth
    omega
  · obtain ⟨before, behind, rfl, hbefore, hbehind⟩ := exists_around_nil hone
    have hgroups : ∀ group ∈ before ++ behind, IsGroup group := by
      intro group hgroup
      refine (hfields.inner_eq group ?_).resolve_left ?_
      · rcases List.mem_append.mp hgroup with h | h <;> simp [h]
      · rintro rfl
        rcases List.mem_append.mp hgroup with h | h
        · exact hbefore h
        · exact hbehind h
    obtain ⟨hgroupsBefore, hgroupsBehind⟩ := List.forall_mem_append.mp hgroups
    obtain ⟨head, hfront⟩ := Front.exists_of_fields hfields.first_eq hbefore hfields.next
    obtain ⟨tail, hback⟩ := Back.exists_of_fields hfields.last_eq hbehind hfields.previous
    obtain ⟨-, -, -, hheadLength⟩ := hfront.headBytes? behind
    obtain ⟨-, -, -, htailLength⟩ := hback.lastBytes? before
    rw [width, List.length_append, List.length_cons] at hwidth
    exact ⟨_, .short rfl hgroupsBefore hgroupsBehind hfront hback (by omega)⟩

/-- The parser accepts the text although it denotes no address: a field is not plainly written, or
there are fewer than eight groups and no `::`, or more than one `::`, or one for no group. -/
def Misread (text : Chars) : Prop :=
  ∃ first inner last, split ':' text = first :: inner ++ [last] ∧ Accepts first inner last ∧
    ((∃ field ∈ text.splitOn ':', ¬(field = [] ∨ IsGroup field ∨ IsQuad field)) ∨
      (inner.count [] = 0 ∧ width inner last < 8) ∨ 2 ≤ inner.count [] ∨
      (width inner last = 9 ∧ first ≠ []))

/-- At an end of the text `::` stands for one group. -/
def Refused (text : Chars) : Prop :=
  ∃ fields : List Chars, fields.length = 7 ∧ (∀ group ∈ fields, IsGroup group) ∧
    (text = [':', ':'] ++ [':'].intercalate fields ∨ text = [':'].intercalate fields ++ [':', ':'])

/-- A text of nine fields that denotes an address has `::` at an end, for one group. -/
theorem Denotes.refused {text : Chars} {bytes : List UInt8} (h : Denotes text bytes)
    (hcount : 8 < (text.splitOn ':').length) : Refused text := by
  cases h with
  | @full fields _ helements hlength =>
    obtain ⟨hfields, hle, -⟩ := helements.groups
    have hne : fields ≠ [] := by
      cases helements with
      | nil => exact absurd hlength (by decide)
      | last => simp
    rw [(splitOn_of_plain hne fun field hfield => .inr (hfields field hfield)).mpr rfl] at hcount
    omega
  | @short front back tail hfront hback hlength =>
    obtain ⟨-, hle, hgroups⟩ := hback.groups
    rw [splitOn_short hfront hback, List.length_append, List.length_cons, length_sideFields,
      length_sideFields] at hcount
    rw [length_bytesOfGroups] at hlength
    by_cases hfrontEmpty : front = []
    · subst hfrontEmpty
      rw [if_pos rfl] at hcount
      rw [List.length_nil] at hlength
      have hbackLength : back.length = 7 := by
        split at hcount <;> omega
      exact ⟨back, hbackLength, hgroups (by omega), .inl rfl⟩
    · have hpositive := List.length_pos_of_ne_nil hfrontEmpty
      rw [if_neg hfrontEmpty] at hcount
      split at hcount
      · next hbackEmpty =>
        subst hbackEmpty
        exact ⟨front, by omega, hfront, .inr (List.append_nil _)⟩
      · omega

theorem Refused.denotes {text : Chars} (h : Refused text) :
    (text.splitOn ':').length = 9 ∧ ∃ bytes, bytes.length = 16 ∧ Denotes text bytes := by
  obtain ⟨fields, hseven, hgroups, htext⟩ := h
  have hlength := length_bytesOfGroups fields
  have hne : fields ≠ [] := List.ne_nil_of_length_pos (by omega)
  rcases htext with rfl | rfl
  · have hback := elements_of_groups hgroups
    have hsplitOn := @splitOn_short [] _ _ (by simp) hback
    have hdenotes := @Denotes.short [] _ _ (by simp) hback (by
      rw [hlength, length_bytesOfGroups, List.length_nil]
      omega)
    rw [List.intercalate_nil, List.nil_append] at hsplitOn hdenotes
    refine ⟨?_, _, ?_, hdenotes⟩
    · rw [hsplitOn, List.length_append, List.length_cons, length_sideFields, length_sideFields,
        if_pos rfl, if_neg hne]
      omega
    · simp only [List.length_append, List.length_replicate, hlength, length_bytesOfGroups,
        List.length_nil]
      omega
  · have hsplitOn := splitOn_short hgroups .nil
    have hdenotes := Denotes.short hgroups .nil (by rw [hlength, List.length_nil]; omega)
    rw [List.intercalate_nil, List.append_nil] at hsplitOn hdenotes
    refine ⟨?_, _, ?_, hdenotes⟩
    · rw [hsplitOn, List.length_append, List.length_cons, length_sideFields, length_sideFields,
        if_pos rfl, if_neg hne]
      omega
    · simp only [List.length_append, List.length_replicate, hlength, List.length_nil]
      omega

/-- Fields that are plainly written and that the parser accepts are those of an address, unless
missing groups are not where one empty field stands. -/
theorem Accepts.wellFormed {first last : Chars} {inner : List Chars} (h : Accepts first inner last)
    (hplain : ∀ field ∈ first :: inner ++ [last], field = [] ∨ IsGroup field ∨ IsQuad field)
    (hnone : inner.count [] = 0 → ¬width inner last < 8) (honce : inner.count [] < 2)
    (hnine : width inner last = 9 → first = []) : WellFormed first inner last := by
  have hgroup : ∀ field ∈ first :: inner ++ [last], field = [] ∨ IsNumber field →
      field = [] ∨ IsGroup field := by
    intro field hfield hnumber
    rcases hplain field hfield with h | h | hquad
    · exact .inl h
    · exact .inr h
    · refine hnumber.imp_right fun hnumber => ?_
      rw [isNumber_iff, groupBytes?_of_isQuad hquad] at hnumber
      exact absurd hnumber (by simp)
  refine ⟨⟨h.fields.next, h.fields.previous, hgroup first (by simp) h.fields.first_eq, ?_,
    hplain last (by simp)⟩, ?_⟩
  · exact fun field hfield => hgroup field (by simp [hfield]) (h.fields.inner_eq field hfield)
  · have hle : width inner last ≤ 9 := by
      have := quads_le_one last
      have := h.length_le
      unfold width
      omega
    rcases Nat.eq_zero_or_pos (inner.count []) with hzero | hpos
    · have := h.none_missing hzero
      have := hnone hzero
      exact .inl ⟨hzero, by omega⟩
    · refine .inr ⟨by omega, ?_⟩
      rcases Nat.lt_or_ge (width inner last) 9 with hlt | hge
      · omega
      · rw [hnine (by omega)]
        change 2 * width inner last ≤ 16 + 2 + endZeroes last
        omega

/-- `Parse` accepts as IPv6 the texts that denote an address, as that address, whatever the array
holds. -/
def IsReadAsDenoted (strAddress : Chars) : Prop :=
  ∀ aIp6 objA6, parse aIp6 strAddress = ipv6 objA6 ↔ Denotes (addressText strAddress) objA6.aIp6

theorem isReadAsDenoted_iff (strAddress : Chars) :
    IsReadAsDenoted strAddress ↔
      ¬Misread (addressText strAddress) ∧ ¬Refused (addressText strAddress) := by
  constructor
  · intro hread
    constructor
    · rintro ⟨first, inner, last, hsplit, haccepts, hbad⟩
      obtain ⟨bytes, hbytes⟩ := (parseIpv6_isSome_iff []).mpr ⟨first, inner, last, hsplit, haccepts⟩
      have hdenotes := (hread [] (setAddress bytes)).mp (parse_eq_ipv6_iff.mpr ⟨bytes, hbytes, rfl⟩)
      obtain ⟨first', inner', last', hsplitOn, -, hspells⟩ := denotes_iff.mp hdenotes
      have hplain := hspells.fieldsAre.plain
      rw [← hsplitOn] at hplain
      rw [split_eq_splitOn hplain, hsplitOn] at hsplit
      obtain ⟨hfront, hlast⟩ := List.append_inj' hsplit rfl
      obtain ⟨rfl, rfl⟩ := List.cons.inj hfront
      obtain rfl := List.singleton_inj.mp hlast
      have hcount := hspells.wellFormed.count
      rcases hbad with ⟨field, hfield, hnot⟩ | ⟨hnone, hwidth⟩ | htwice | ⟨hnine, hfirst⟩
      · exact hnot (hplain field hfield)
      · omega
      · omega
      · have hquads := quads_le_one last'
        have hle := haccepts.length_le
        have hlast : last' ≠ [] := by
          rintro rfl
          rw [width, quads, if_pos (.inl rfl)] at hnine
          omega
        rw [hnine, endZeroes, endZeroes, if_neg hfirst, if_neg hlast] at hcount
        omega
    · intro hrefused
      obtain ⟨hnine, bytes, hlength, hdenotes⟩ := hrefused.denotes
      obtain ⟨bytes', hbytes', -⟩ := parse_eq_ipv6_iff.mp ((hread [] ⟨bytes, hlength⟩).mpr hdenotes)
      obtain ⟨first, inner, last, hsplit, haccepts⟩ := (parseIpv6_isSome_iff []).mp ⟨bytes', hbytes'⟩
      have hcount := congrArg List.length hsplit
      have hle := haccepts.length_le
      rw [split, List.length_map, hnine, List.length_append, List.length_cons,
        List.length_singleton] at hcount
      omega
  · rintro ⟨hmisread, hrefused⟩ aIp6 objA6
    constructor
    · intro hparse
      obtain ⟨bytes, hbytes, rfl⟩ := parse_eq_ipv6_iff.mp hparse
      obtain ⟨first, inner, last, hsplit, haccepts⟩ := (parseIpv6_isSome_iff aIp6).mp ⟨bytes, hbytes⟩
      have hplain : ∀ field ∈ (addressText strAddress).splitOn ':',
          field = [] ∨ IsGroup field ∨ IsQuad field := by
        intro field hfield
        by_contra hnot
        exact hmisread ⟨first, inner, last, hsplit, haccepts, .inl ⟨field, hfield, hnot⟩⟩
      have hsplitOn := split_eq_splitOn hplain
      rw [hsplit] at hsplitOn
      rw [← hsplitOn] at hplain
      have hwell : WellFormed first inner last := by
        refine haccepts.wellFormed hplain ?_ ?_ ?_
        · exact fun hnone hwidth =>
            hmisread ⟨first, inner, last, hsplit, haccepts, .inr (.inl ⟨hnone, hwidth⟩)⟩
        · by_contra htwice
          exact hmisread ⟨first, inner, last, hsplit, haccepts, .inr (.inr (.inl (by omega)))⟩
        · intro hnine
          by_contra hfirst
          exact hmisread ⟨first, inner, last, hsplit, haccepts, .inr (.inr (.inr ⟨hnine, hfirst⟩))⟩
      obtain ⟨bytes', hspells⟩ := hwell.exists_spells haccepts.ne_nil
      have hdenotes : Denotes (addressText strAddress) bytes' :=
        denotes_iff.mpr ⟨first, inner, last, hsplitOn.symm, haccepts.ne_nil, hspells⟩
      have hlength := (hspells.parseElements haccepts.ne_nil haccepts.length_le).1
      have hle := haccepts.length_le
      have hcount : ((addressText strAddress).splitOn ':').length ≤ 8 := by
        rw [← hsplitOn, List.length_append, List.length_cons, List.length_singleton]
        omega
      have hsame := hdenotes.parse hcount aIp6 (show bytes' = Ipv6Address.aIp6 ⟨bytes', hlength⟩ from rfl)
      rw [hparse] at hsame
      rw [IpAddress.ipv6.inj hsame]
      exact hdenotes
    · intro hdenotes
      refine hdenotes.parse ?_ aIp6 rfl
      by_contra hcount
      exact hrefused (hdenotes.refused (by omega))

theorem not_denotes_three_groups (bytes : List UInt8) : ¬Denotes "1:2:3".toList bytes := by
  intro hdenotes
  obtain ⟨first, inner, last, hsplit, -, hspells⟩ := denotes_iff.mp hdenotes
  have hfields : "1:2:3".toList.splitOn ':' = [['1'], ['2'], ['3']] := by decide
  rw [hfields] at hsplit
  obtain ⟨field, rfl⟩ : ∃ field, inner = [field] := by
    apply List.length_eq_one_iff.mp
    have hlength := congrArg List.length hsplit
    rw [List.length_append, List.length_cons] at hlength
    exact (Nat.succ.inj (Nat.succ.inj hlength)).symm
  obtain ⟨rfl, rfl, rfl⟩ : first = ['1'] ∧ field = ['2'] ∧ last = ['3'] := by
    simpa [eq_comm] using hsplit
  exact absurd hspells.wellFormed.count (by decide)

/-- Three groups without `::` are taken for an address whose first ten bytes are those that the
array held. -/
theorem parse_three_groups :
    ¬IsReadAsDenoted "1:2:3".toList ∧
      parse (List.replicate 16 0) "1:2:3".toList =
        ipv6 (setAddress [0, 0, 0, 0, 0, 0, 0, 0, 0, 0, 0, 1, 0, 2, 0, 3]) ∧
      parse (List.replicate 16 7) "1:2:3".toList =
        ipv6 (setAddress [7, 7, 7, 7, 7, 7, 7, 7, 7, 7, 0, 1, 0, 2, 0, 3]) := by
  have hzero : parse (List.replicate 16 0) "1:2:3".toList =
      ipv6 (setAddress [0, 0, 0, 0, 0, 0, 0, 0, 0, 0, 0, 1, 0, 2, 0, 3]) := by decide
  refine ⟨fun hread => ?_, hzero, by decide⟩
  exact not_denotes_three_groups _ ((hread _ _).mp hzero)

end ImsStack.Platform.IpAddress
