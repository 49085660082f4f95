import ImsStack.Platform.IpParser
import ImsStack.Platform.Tokens

/-!
The textual form of IPv6 addresses, and what it means for the fields between the colons of a text.
-/

namespace ImsStack.Platform.IpAddress

open AString Numerals Tokens Library.OptionTraverse

/-- One to four hexadecimal digits. -/
def IsGroup (field : Chars) : Prop :=
  field ≠ [] ∧ field.length ≤ 4 ∧ ∀ c ∈ field, (hexDigit? c).isSome

instance (field : Chars) : Decidable (IsGroup field) := inferInstanceAs (Decidable (_ ∧ _ ∧ _))

def groupValue (field : Chars) : Nat :=
  (field.filterMap hexDigit?).foldl (fun value digit => value * 16 + digit) 0

/-- One to three decimal digits of a number that fits in a byte. -/
def IsOctet (field : Chars) : Prop :=
  field ≠ [] ∧ field.length ≤ 3 ∧ field.all isDigit ∧ digitsToNat field ≤ 0xff

instance (field : Chars) : Decidable (IsOctet field) := inferInstanceAs (Decidable (_ ∧ _ ∧ _ ∧ _))

/-- A dotted IPv4 part. -/
def IsQuad (field : Chars) : Prop :=
  (field.splitOn '.').length = 4 ∧ ∀ octet ∈ field.splitOn '.', IsOctet octet

instance (field : Chars) : Decidable (IsQuad field) := inferInstanceAs (Decidable (_ ∧ _))

def bytesOfGroups (fields : List Chars) : List UInt8 :=
  fields.flatMap fun field => groupBytes (groupValue field)

def bytesOfQuad (field : Chars) : List UInt8 :=
  (field.splitOn '.').map fun octet => .ofNat (digitsToNat octet)

inductive LastField (field : Chars) : List UInt8 → Prop
  | group (hgroup : IsGroup field) : LastField field (groupBytes (groupValue field))
  | quad (hquad : IsQuad field) : LastField field (bytesOfQuad field)

/-- Groups, the last two of which may be written as an IPv4 part. -/
inductive Elements : List Chars → List UInt8 → Prop
  | nil : Elements [] []
  | last {fields : List Chars} {field : Chars} {bytes : List UInt8}
      (hgroups : ∀ group ∈ fields, IsGroup group) (hlast : LastField field bytes) :
      Elements (fields ++ [field]) (bytesOfGroups fields ++ bytes)

/-- The address that a text denotes: all of its bytes are written, or `::` stands for groups of
zero that are missing. -/
inductive Denotes : Chars → List UInt8 → Prop
  | full {fields : List Chars} {bytes : List UInt8} (helements : Elements fields bytes)
      (hlength : bytes.length = 16) : Denotes ([':'].intercalate fields) bytes
  | short {front back : List Chars} {bytes : List UInt8}
      (hfront : ∀ group ∈ front, IsGroup group) (hback : Elements back bytes)
      (hlength : (bytesOfGroups front).length + bytes.length ≤ 14) :
      Denotes ([':'].intercalate front ++ [':', ':'] ++ [':'].intercalate back)
        (bytesOfGroups front ++
          List.replicate (16 - (bytesOfGroups front).length - bytes.length) 0 ++ bytes)

/-- The fields of a text with two colons at least: groups, the last one perhaps an IPv4 part, and
empty fields, which at an end of the text have an empty one beside them. -/
structure FieldsAre (Group Quad : Chars → Prop) (first : Chars) (inner : List Chars)
    (last : Chars) : Prop where
  next : first = [] → inner.head? = some []
  previous : last = [] → inner.getLast? = some []
  first_eq : first = [] ∨ Group first
  inner_eq : ∀ field ∈ inner, field = [] ∨ Group field
  last_eq : last = [] ∨ Group last ∨ Quad last

/-- A field that the parser takes for a group. -/
def IsNumber (field : Chars) : Prop := ∃ nValue ∈ hexToUInt32? field, nValue ≤ 0xffff

def IsIpv4 (field : Chars) : Prop := (parseIpv4 field).isSome

/-- One if the last field is not a group, which then is an IPv4 part. -/
def quads (last : Chars) : Nat := if last = [] ∨ (groupBytes? last).isSome then 0 else 1

/-- How many groups the fields of a text stand for when none is missing. -/
def width (inner : List Chars) (last : Chars) : Nat := inner.length + 2 + quads last

theorem quads_le_one (last : Chars) : quads last ≤ 1 := by
  unfold quads
  split <;> decide

theorem isNumber_iff {field : Chars} : IsNumber field ↔ (groupBytes? field).isSome := by
  unfold IsNumber groupBytes?
  cases hexToUInt32? field with
  | none => simp
  | some nValue => simp [Option.filter_some, apply_ite]

theorem filterMap_hexDigit? {field : Chars} (hdigits : ∀ c ∈ field, (hexDigit? c).isSome) :
    field.mapM hexDigit? = some (field.filterMap hexDigit?) := by
  induction field with
  | nil => rfl
  | cons c field ih =>
    obtain ⟨hc, hdigits⟩ := List.forall_mem_cons.mp hdigits
    obtain ⟨digit, hdigit⟩ := Option.isSome_iff_exists.mp hc
    rw [mapM_cons, ih hdigits, List.filterMap_cons, hdigit]
    rfl

theorem hexDigit?_lt {c : Char} {digit : Nat} (h : hexDigit? c = some digit) : digit < 16 := by
  unfold hexDigit? at h
  have hnine : c ≤ '9' → c.toNat ≤ 57 := id
  have hf : c ≤ 'f' → c.toNat ≤ 102 := id
  have hF : c ≤ 'F' → c.toNat ≤ 70 := id
  have hzero : '0'.toNat = 48 := rfl
  have ha : 'a'.toNat = 97 := rfl
  have hA : 'A'.toNat = 65 := rfl
  split at h
  · next hc =>
    have := hnine hc.2
    have := Option.some.inj h
    omega
  · split at h
    · next hc =>
      have := hf hc.2
      have := Option.some.inj h
      omega
    · split at h
      · next hc =>
        have := hF hc.2
        have := Option.some.inj h
        omega
      · exact absurd h (by simp)

theorem groupValue_le {field : Chars} (hgroup : IsGroup field) : groupValue field ≤ 0xffff := by
  have hlength : (field.filterMap hexDigit?).length ≤ 4 :=
    Nat.le_trans (List.length_filterMap_le _ _) hgroup.2.1
  have hdigits : ∀ digit ∈ field.filterMap hexDigit?, digit < 16 := by
    intro digit hdigit
    obtain ⟨c, -, hc⟩ := List.mem_filterMap.mp hdigit
    exact hexDigit?_lt hc
  unfold groupValue
  generalize field.filterMap hexDigit? = digits at *
  rcases digits with _ | ⟨a, _ | ⟨b, _ | ⟨c, _ | ⟨d, _ | ⟨e, digits⟩⟩⟩⟩⟩
  all_goals
    simp only [List.forall_mem_cons, List.length_cons, List.foldl_cons, List.foldl_nil] at *
    omega

theorem groupBytes?_of_isGroup {field : Chars} (hgroup : IsGroup field) :
    groupBytes? field = some (groupBytes (groupValue field)) := by
  have hvalue := groupValue_le hgroup
  have hread : hexToUInt32? field = some (groupValue field) := by
    rw [hexToUInt32?_of_digits hgroup.1 hgroup.2.2, filterMap_hexDigit? hgroup.2.2,
      Option.bind_some]
    exact if_pos (by rw [groupValue] at hvalue; omega)
  rw [groupBytes?, hread, Option.filter_some, if_pos (by simpa using hvalue)]
  rfl

theorem dot_mem_of_isQuad {field : Chars} (hquad : IsQuad field) : '.' ∈ field := by
  by_contra hdot
  have hlength := hquad.1
  rw [List.splitOn_eq_singleton hdot] at hlength
  exact absurd hlength (by simp)

theorem chars_of_isQuad {field : Chars} (hquad : IsQuad field) {c : Char} (hc : c ∈ field) :
    c = '.' ∨ isDigit c = true := by
  have hjoin : ['.'].intercalate (field.splitOn '.') = field := List.intercalate_splitOn '.'
  rw [← hjoin] at hc
  rcases mem_of_mem_intercalate hc with rfl | ⟨octet, hoctet, hc⟩
  · exact .inl rfl
  · exact .inr (List.all_eq_true.mp (hquad.2 octet hoctet).2.2.1 c hc)

theorem groupBytes?_of_isQuad {field : Chars} (hquad : IsQuad field) : groupBytes? field = none := by
  have hdot := dot_mem_of_isQuad hquad
  have hplain : ∀ c ∈ field, isSpace c = false ∧ c ∉ [nul, '-', '+', 'x', 'X'] := by
    intro c hc
    rcases chars_of_isQuad hquad hc with rfl | hdigit
    · decide
    · apply plain_of_hexDigit
      unfold hexDigit?
      rw [if_pos (by simpa [isDigit] using hdigit)]
      rfl
  have hdigits : field.mapM hexDigit? = none := by
    cases hread : field.mapM hexDigit? with
    | none => rfl
    | some digits =>
      obtain ⟨digit, -, hdigit⟩ := exists_read_of_mapM_eq_some hread '.' hdot
      exact absurd hdigit (by simp [hexDigit?])
  rw [groupBytes?, hexToUInt32?_of_plain (List.ne_nil_of_mem hdot) hplain, hdigits]
  rfl

theorem ipv4Bytes_octets {a b c d : Nat} (ha : a ≤ 0xff) (hb : b ≤ 0xff) (hc : c ≤ 0xff)
    (hd : d ≤ 0xff) :
    ipv4Bytes ((((((0 <<< 8 + a) <<< 8) + b) <<< 8 + c) <<< 8) + d) =
      [.ofNat a, .ofNat b, .ofNat c, .ofNat d] := by
  have hbyte : (0xff : Nat) = 2 ^ 8 - 1 := rfl
  unfold ipv4Bytes
  simp only [hbyte, Nat.and_two_pow_sub_one_eq_mod, Nat.shiftRight_eq_div_pow, Nat.shiftLeft_eq]
  have h1 : ((((0 * 2 ^ 8 + a) * 2 ^ 8 + b) * 2 ^ 8 + c) * 2 ^ 8 + d) / 2 ^ 24 % 2 ^ 8 = a := by omega
  have h2 : ((((0 * 2 ^ 8 + a) * 2 ^ 8 + b) * 2 ^ 8 + c) * 2 ^ 8 + d) / 2 ^ 16 % 2 ^ 8 = b := by omega
  have h3 : ((((0 * 2 ^ 8 + a) * 2 ^ 8 + b) * 2 ^ 8 + c) * 2 ^ 8 + d) / 2 ^ 8 % 2 ^ 8 = c := by omega
  have h4 : ((((0 * 2 ^ 8 + a) * 2 ^ 8 + b) * 2 ^ 8 + c) * 2 ^ 8 + d) % 2 ^ 8 = d := by omega
  rw [h1, h2, h3, h4]

theorem toUInt32?_of_isOctet {octet : Chars} (hoctet : IsOctet octet) :
    toUInt32? (strip octet) = some (digitsToNat octet) := by
  obtain ⟨hne, -, hdigits, hle⟩ := hoctet
  rw [strip_eq_self fun c hc => not_isSpace_of_isDigit (List.all_eq_true.mp hdigits c hc)]
  exact toUInt32?_of_digits hne hdigits (by omega)

theorem parseIpv4_of_isQuad {field : Chars} (hquad : IsQuad field) :
    (parseIpv4 field).map ipv4Bytes = some (bytesOfQuad field) := by
  obtain ⟨hlength, hoctets⟩ := hquad
  unfold parseIpv4 bytesOfQuad split
  generalize field.splitOn '.' = octets at *
  obtain ⟨a, octets, rfl⟩ := List.exists_cons_of_length_eq_add_one (n := 3) hlength
  obtain ⟨b, octets, rfl⟩ := List.exists_cons_of_length_eq_add_one (n := 2) (Nat.succ.inj hlength)
  obtain ⟨c, d, rfl⟩ := List.length_eq_two.mp (Nat.succ.inj (Nat.succ.inj hlength))
  have ha := hoctets a (by simp)
  have hb := hoctets b (by simp)
  have hc := hoctets c (by simp)
  have hd := hoctets d (by simp)
  simp only [List.map_cons, List.map_nil, List.length_cons, List.length_nil, List.foldlM_cons,
    List.foldlM_nil, toUInt32?_of_isOctet ha, toUInt32?_of_isOctet hb, toUInt32?_of_isOctet hc,
    toUInt32?_of_isOctet hd, Option.bind_eq_bind, Option.bind_some, gt_iff_lt,
    Nat.not_lt.mpr ha.2.2.2, Nat.not_lt.mpr hb.2.2.2, Nat.not_lt.mpr hc.2.2.2,
    Nat.not_lt.mpr hd.2.2.2, if_false, Option.pure_def]
  exact congrArg some (ipv4Bytes_octets ha.2.2.2 hb.2.2.2 hc.2.2.2 hd.2.2.2)

namespace LastField

variable {field : Chars} {bytes : List UInt8}

theorem ne_nil (h : LastField field bytes) : field ≠ [] := by
  cases h with
  | group hgroup => exact hgroup.1
  | quad hquad => exact List.ne_nil_of_mem (dot_mem_of_isQuad hquad)

theorem lastBytes? (h : LastField field bytes) (previous : Chars) :
    lastBytes? field previous = some bytes := by
  rw [IpAddress.lastBytes?, if_neg h.ne_nil]
  cases h with
  | group hgroup => rw [groupBytes?_of_isGroup hgroup]; rfl
  | quad hquad => rw [groupBytes?_of_isQuad hquad]; exact parseIpv4_of_isQuad hquad

theorem length_eq (h : LastField field bytes) : bytes.length = 2 + 2 * quads field := by
  have hne := h.ne_nil
  cases h with
  | group hgroup => simp [quads, groupBytes?_of_isGroup hgroup, groupBytes]
  | quad hquad => simp [quads, groupBytes?_of_isQuad hquad, hne, bytesOfQuad, hquad.1]

theorem isGroup_or (h : LastField field bytes) : IsGroup field ∨ IsQuad field := by
  cases h with
  | group hgroup => exact .inl hgroup
  | quad hquad => exact .inr hquad

theorem exists_of (h : IsGroup field ∨ IsQuad field) : ∃ bytes, LastField field bytes := by
  rcases h with hgroup | hquad
  · exact ⟨_, .group hgroup⟩
  · exact ⟨_, .quad hquad⟩

end LastField

theorem plain_field {field : Chars} (h : field = [] ∨ IsGroup field ∨ IsQuad field) :
    ':' ∉ field ∧ strip field = field := by
  have hchars : ∀ c ∈ field, (hexDigit? c).isSome ∨ c = '.' ∨ isDigit c = true := by
    rcases h with rfl | hgroup | hquad
    · simp
    · exact fun c hc => .inl (hgroup.2.2 c hc)
    · exact fun c hc => .inr (chars_of_isQuad hquad hc)
  constructor
  · intro hcolon
    rcases hchars ':' hcolon with h | h | h <;> exact absurd h (by decide)
  · apply strip_eq_self
    intro c hc
    rcases hchars c hc with h | rfl | h
    · exact (plain_of_hexDigit h).1
    · rfl
    · exact not_isSpace_of_isDigit h

/-- The fields of a text are found as they stand there when they are plainly written. -/
theorem split_eq_splitOn {text : Chars}
    (hplain : ∀ field ∈ text.splitOn ':', field = [] ∨ IsGroup field ∨ IsQuad field) :
    split ':' text = text.splitOn ':' := by
  have hstrip : (text.splitOn ':').map strip = (text.splitOn ':').map id :=
    List.map_congr_left fun field hfield => (plain_field (hplain field hfield)).2
  rw [split, hstrip, List.map_id]

theorem FieldsAre.plain {first last : Chars} {inner : List Chars}
    (h : FieldsAre IsGroup IsQuad first inner last) :
    ∀ field ∈ first :: inner ++ [last], field = [] ∨ IsGroup field ∨ IsQuad field := by
  intro field hfield
  simp only [List.cons_append, List.mem_cons, List.mem_append, List.not_mem_nil, or_false] at hfield
  rcases hfield with rfl | hfield | rfl
  · exact h.first_eq.imp_right .inl
  · exact (h.inner_eq field hfield).imp_right .inl
  · exact h.last_eq

/-- The first field of a text and those up to the empty one that stands for missing groups. -/
inductive Front (first : Chars) (before : List Chars) : List UInt8 → Prop
  | nothing (hfirst : first = []) (hbefore : before = []) : Front first before []
  | groups (hfirst : IsGroup first) : Front first before (bytesOfGroups (first :: before))

inductive Back (behind : List Chars) (last : Chars) : List UInt8 → Prop
  | nothing (hlast : last = []) (hbehind : behind = []) : Back behind last []
  | groups {tail : List UInt8} (hlast : LastField last tail) :
      Back behind last (bytesOfGroups behind ++ tail)

/-- The address that the fields of a text denote. -/
inductive Spells (first : Chars) (inner : List Chars) (last : Chars) : List UInt8 → Prop
  | full {tail : List UInt8} (hfirst : IsGroup first) (hinner : ∀ group ∈ inner, IsGroup group)
      (hlast : LastField last tail) (hlength : (bytesOfGroups (first :: inner) ++ tail).length = 16) :
      Spells first inner last (bytesOfGroups (first :: inner) ++ tail)
  | short {before behind : List Chars} {head tail : List UInt8} (hinner : inner = before ++ [] :: behind)
      (hbefore : ∀ group ∈ before, IsGroup group) (hbehind : ∀ group ∈ behind, IsGroup group)
      (hfront : Front first before head) (hback : Back behind last tail)
      (hlength : head.length + tail.length ≤ 14) :
      Spells first inner last (head ++ List.replicate (16 - head.length - tail.length) 0 ++ tail)

theorem intercalate_append_cons {before behind : List Chars} (hbefore : before ≠ []) (field : Chars) :
    [':'].intercalate (before ++ field :: behind) =
      [':'].intercalate before ++ ':' :: [':'].intercalate (field :: behind) := by
  induction before with
  | nil => exact absurd rfl hbefore
  | cons first before ih =>
    cases before with
    | nil => simp
    | cons second before =>
      rw [List.cons_append, List.cons_append, List.intercalate_cons_cons, ← List.cons_append,
        ih (by simp), List.intercalate_cons_cons]
      simp only [List.append_assoc, List.cons_append]

/-- The fields on one side of `::`. -/
def sideFields (fields : List Chars) : List Chars := if fields = [] then [[]] else fields

theorem sideFields_ne_nil (fields : List Chars) : sideFields fields ≠ [] := by
  unfold sideFields
  split
  · simp
  · assumption

theorem intercalate_sideFields (fields : List Chars) :
    [':'].intercalate (sideFields fields) = [':'].intercalate fields := by
  unfold sideFields
  split
  · next h => rw [h]; rfl
  · rfl

theorem short_eq (front back : List Chars) :
    [':'].intercalate front ++ [':', ':'] ++ [':'].intercalate back =
      [':'].intercalate (sideFields front ++ [] :: sideFields back) := by
  obtain ⟨field, rest, hback⟩ := List.exists_cons_of_ne_nil (sideFields_ne_nil back)
  rw [intercalate_append_cons (sideFields_ne_nil front), intercalate_sideFields, hback,
    List.intercalate_cons_cons, ← hback, intercalate_sideFields]
  simp

theorem splitOn_of_plain {text : Chars} {fields : List Chars} (hne : fields ≠ [])
    (hplain : ∀ field ∈ fields, field = [] ∨ IsGroup field ∨ IsQuad field) :
    text.splitOn ':' = fields ↔ text = [':'].intercalate fields := by
  constructor
  · rintro rfl
    exact (List.intercalate_splitOn ':').symm
  · rintro rfl
    exact List.splitOn_intercalate ':' (fun field hfield => (plain_field (hplain field hfield)).1) hne

theorem Front.exists_of {front : List Chars} (hfront : ∀ group ∈ front, IsGroup group) :
    ∃ first before, sideFields front = first :: before ∧ (∀ group ∈ before, IsGroup group) ∧
      Front first before (bytesOfGroups front) := by
  cases front with
  | nil => exact ⟨[], [], rfl, by simp, .nothing rfl rfl⟩
  | cons first before =>
    obtain ⟨hfirst, hbefore⟩ := List.forall_mem_cons.mp hfront
    exact ⟨first, before, rfl, hbefore, .groups hfirst⟩

theorem Back.exists_of {back : List Chars} {bytes : List UInt8} (hback : Elements back bytes) :
    ∃ behind last, sideFields back = behind ++ [last] ∧ (∀ group ∈ behind, IsGroup group) ∧
      Back behind last bytes := by
  cases hback with
  | nil => exact ⟨[], [], rfl, by simp, .nothing rfl rfl⟩
  | @last fields field bytes hgroups hlast =>
    exact ⟨fields, field, if_neg (by simp), hgroups, .groups hlast⟩

theorem Front.exists_fields {first : Chars} {before : List Chars} {head : List UInt8}
    (h : Front first before head) (hbefore : ∀ group ∈ before, IsGroup group) :
    ∃ front, sideFields front = first :: before ∧ (∀ group ∈ front, IsGroup group) ∧
      head = bytesOfGroups front := by
  cases h with
  | nothing hfirst hnone => exact ⟨[], by rw [hfirst, hnone]; rfl, by simp, rfl⟩
  | groups hfirst =>
    exact ⟨first :: before, rfl, List.forall_mem_cons.mpr ⟨hfirst, hbefore⟩, rfl⟩

theorem Back.exists_fields {behind : List Chars} {last : Chars} {tail : List UInt8}
    (h : Back behind last tail) (hbehind : ∀ group ∈ behind, IsGroup group) :
    ∃ back, sideFields back = behind ++ [last] ∧ Elements back tail := by
  cases h with
  | nothing hlast hnone => exact ⟨[], by rw [hlast, hnone]; rfl, .nil⟩
  | groups hlast => exact ⟨behind ++ [last], if_neg (by simp), .last hbehind hlast⟩

theorem length_bytesOfGroups (fields : List Chars) :
    (bytesOfGroups fields).length = 2 * fields.length := by
  unfold bytesOfGroups
  induction fields with
  | nil => rfl
  | cons field fields ih =>
    rw [List.flatMap_cons, List.length_append, ih, List.length_cons]
    simp only [groupBytes, List.length_cons, List.length_nil]
    omega

theorem Spells.fieldsAre {first last : Chars} {inner : List Chars} {bytes : List UInt8}
    (h : Spells first inner last bytes) : FieldsAre IsGroup IsQuad first inner last := by
  cases h with
  | full hfirst hinner hlast hlength =>
    refine ⟨fun h => absurd h hfirst.1, fun h => absurd h hlast.ne_nil, .inr hfirst,
      fun field hfield => .inr (hinner field hfield), .inr hlast.isGroup_or⟩
  | @short before behind head tail hinner hbefore hbehind hfront hback hlength =>
    subst hinner
    have hfields : ∀ field ∈ before ++ [] :: behind, field = [] ∨ IsGroup field := by
      intro field hfield
      simp only [List.mem_append, List.mem_cons] at hfield
      rcases hfield with hfield | rfl | hfield
      · exact .inr (hbefore field hfield)
      · exact .inl rfl
      · exact .inr (hbehind field hfield)
    have hfirst : first = [] ∨ IsGroup first := by
      cases hfront with
      | nothing hfirst => exact .inl hfirst
      | groups hfirst => exact .inr hfirst
    have hlast : last = [] ∨ IsGroup last ∨ IsQuad last := by
      cases hback with
      | nothing hlast => exact .inl hlast
      | groups hlast => exact .inr hlast.isGroup_or
    refine ⟨?_, ?_, hfirst, hfields, hlast⟩
    · intro hempty
      cases hfront with
      | nothing _ hnone => rw [hnone]; rfl
      | groups hgroup => exact absurd hempty hgroup.1
    · intro hempty
      cases hback with
      | nothing _ hnone => rw [hnone]; simp
      | groups hlast => exact absurd hempty hlast.ne_nil

theorem denotes_iff {text : Chars} {bytes : List UInt8} :
    Denotes text bytes ↔ ∃ first inner last, text.splitOn ':' = first :: inner ++ [last] ∧
      inner ≠ [] ∧ Spells first inner last bytes := by
  constructor
  · intro h
    cases h with
    | full helements hlength =>
      cases helements with
      | nil => exact absurd hlength (by decide)
      | @last fields last tail hgroups hlast =>
        have hcount := hlast.length_eq
        have hle := quads_le_one last
        rw [List.length_append, length_bytesOfGroups] at hlength
        obtain ⟨first, inner, rfl⟩ := List.exists_cons_of_ne_nil
          (show fields ≠ [] from List.ne_nil_of_length_pos (by omega))
        obtain ⟨hfirst, hinner⟩ := List.forall_mem_cons.mp hgroups
        have hspells : Spells first inner last (bytesOfGroups (first :: inner) ++ tail) :=
          .full hfirst hinner hlast (by rw [List.length_append, length_bytesOfGroups]; exact hlength)
        refine ⟨first, inner, last, ?_, ?_, hspells⟩
        · exact (splitOn_of_plain (by simp) hspells.fieldsAre.plain).mpr rfl
        · rw [List.length_cons] at hlength
          exact List.ne_nil_of_length_pos (by omega)
    | @short front back tail hfront hback hlength =>
      obtain ⟨first, before, hfirst, hbefore, hhead⟩ := Front.exists_of hfront
      obtain ⟨behind, last, hlast, hbehind, htail⟩ := Back.exists_of hback
      have hspells : Spells first (before ++ [] :: behind) last _ :=
        .short rfl hbefore hbehind hhead htail hlength
      refine ⟨first, before ++ [] :: behind, last, ?_, by simp, hspells⟩
      rw [splitOn_of_plain (by simp) hspells.fieldsAre.plain, short_eq, hfirst, hlast]
      simp
  · rintro ⟨first, inner, last, hsplit, -, hspells⟩
    rw [splitOn_of_plain (by simp) hspells.fieldsAre.plain] at hsplit
    subst hsplit
    cases hspells with
    | full hfirst hinner hlast hlength =>
      exact .full (.last (List.forall_mem_cons.mpr ⟨hfirst, hinner⟩) hlast) hlength
    | @short before behind head tail hinner hbefore hbehind hfront hback hlength =>
      subst hinner
      obtain ⟨front, hfirst, hgroups, rfl⟩ := hfront.exists_fields hbefore
      obtain ⟨back, hlast, helements⟩ := hback.exists_fields hbehind
      have htext := Denotes.short hgroups helements hlength
      rw [short_eq, hfirst, hlast] at htext
      simpa using htext

theorem elements_of_groups {fields : List Chars} (hgroups : ∀ group ∈ fields, IsGroup group) :
    Elements fields (bytesOfGroups fields) := by
  rcases List.eq_nil_or_concat fields with rfl | ⟨behind, last, rfl⟩
  · exact .nil
  · rw [List.concat_eq_append] at hgroups ⊢
    obtain ⟨hbehind, hlast⟩ := List.forall_mem_append.mp hgroups
    have hbytes : bytesOfGroups (behind ++ [last]) =
        bytesOfGroups behind ++ groupBytes (groupValue last) := by
      simp [bytesOfGroups]
    rw [hbytes]
    exact .last hbehind (.group (hlast last (by simp)))

theorem Elements.groups {fields : List Chars} {bytes : List UInt8} (h : Elements fields bytes) :
    (∀ field ∈ fields, IsGroup field ∨ IsQuad field) ∧ 2 * fields.length ≤ bytes.length ∧
      (bytes.length ≤ 2 * fields.length → ∀ field ∈ fields, IsGroup field) := by
  cases h with
  | nil => simp
  | @last fields last tail hgroups hlast =>
    simp only [List.length_append, length_bytesOfGroups, List.length_singleton,
      List.forall_mem_append, List.forall_mem_singleton]
    refine ⟨⟨fun field hfield => .inl (hgroups field hfield), hlast.isGroup_or⟩, ?_, ?_⟩
    · have hlength := hlast.length_eq
      omega
    · intro hle
      refine ⟨hgroups, ?_⟩
      cases hlast with
      | group hgroup => exact hgroup
      | quad hquad =>
        rw [bytesOfQuad, List.length_map, hquad.1] at hle
        omega

theorem length_sideFields (fields : List Chars) :
    (sideFields fields).length = if fields = [] then 1 else fields.length := by
  unfold sideFields
  split <;> rfl

theorem forall_mem_sideFields {P : Chars → Prop} {fields : List Chars} (hempty : P [])
    (hfields : ∀ field ∈ fields, P field) : ∀ field ∈ sideFields fields, P field := by
  unfold sideFields
  split
  · intro field hfield
    obtain rfl := List.mem_singleton.mp hfield
    exact hempty
  · exact hfields

theorem splitOn_short {front back : List Chars} {tail : List UInt8}
    (hfront : ∀ group ∈ front, IsGroup group) (hback : Elements back tail) :
    ([':'].intercalate front ++ [':', ':'] ++ [':'].intercalate back).splitOn ':' =
      sideFields front ++ [] :: sideFields back := by
  refine (splitOn_of_plain (by simp) ?_).mpr (short_eq front back)
  intro field hfield
  rcases List.mem_append.mp hfield with hfield | hfield
  · have hgroups : ∀ field ∈ front, field = [] ∨ IsGroup field ∨ IsQuad field :=
      fun group hgroup => .inr (.inl (hfront group hgroup))
    exact forall_mem_sideFields (.inl rfl) hgroups field hfield
  · rcases List.mem_cons.mp hfield with rfl | hfield
    · exact .inl rfl
    · have hgroups : ∀ field ∈ back, field = [] ∨ IsGroup field ∨ IsQuad field :=
        fun group hgroup => .inr (hback.groups.1 group hgroup)
      exact forall_mem_sideFields (.inl rfl) hgroups field hfield

end ImsStack.Platform.IpAddress
