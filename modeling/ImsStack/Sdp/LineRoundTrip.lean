import ImsStack.Library.OptionTraverse
import ImsStack.Sdp.SdpLines
import ImsStack.Sdp.SdpMedia
import ImsStack.Sdp.SdpAttribute
import ImsStack.Sdp.Tokens

/-!
For each line class: whether the value that is printed of a decoded line decodes to
the same line again, and that it holds no line feed.
-/

namespace ImsStack.Sdp.LineRoundTrip

open Platform.AString Platform.Numerals Platform.Tokens Library.OptionTraverse Tokens

theorem splitLine_two {s a b : Chars} (h : splitLine 2 s = some [a, b]) :
    s = a ++ ' ' :: b ∧ ' ' ∉ a := by
  obtain ⟨rest, rfl, ha, hrest⟩ := splitLine_eq_some_cons h
  rw [splitLine_one] at hrest
  obtain rfl : rest = b := by simpa using hrest
  exact ⟨rfl, ha⟩

theorem splitLine_three {s a b c : Chars} (h : splitLine 3 s = some [a, b, c]) :
    s = a ++ ' ' :: (b ++ ' ' :: c) ∧ ' ' ∉ a ∧ ' ' ∉ b := by
  obtain ⟨rest, rfl, ha, hrest⟩ := splitLine_eq_some_cons h
  obtain ⟨rfl, hb⟩ := splitLine_two hrest
  exact ⟨rfl, ha, hb⟩

theorem splitLine_four {s a b c d : Chars} (h : splitLine 4 s = some [a, b, c, d]) :
    s = a ++ ' ' :: (b ++ ' ' :: (c ++ ' ' :: d)) ∧ ' ' ∉ a ∧ ' ' ∉ b ∧ ' ' ∉ c := by
  obtain ⟨rest, rfl, ha, hrest⟩ := splitLine_eq_some_cons h
  obtain ⟨rfl, hb, hc⟩ := splitLine_three hrest
  exact ⟨rfl, ha, hb, hc⟩

theorem splitLine_six {s a b c d e f : Chars} (h : splitLine 6 s = some [a, b, c, d, e, f]) :
    s = a ++ ' ' :: (b ++ ' ' :: (c ++ ' ' :: (d ++ ' ' :: (e ++ ' ' :: f)))) := by
  obtain ⟨rest, rfl, -, hrest⟩ := splitLine_eq_some_cons h
  obtain ⟨rest, rfl, -, hrest⟩ := splitLine_eq_some_cons hrest
  obtain ⟨rfl, -⟩ := splitLine_four hrest
  rfl

theorem isTokenCharacter_of_mem {s : Chars} {c : Char} (hs : isTokenString s = true) (hc : c ∈ s) :
    isTokenCharacter c = true := by
  have h : s.all isTokenCharacter = true := (Bool.and_eq_true_iff.mp hs).2
  exact List.all_eq_true.mp h c hc

theorem isSpace_of_isTokenCharacter {c : Char} (hc : isTokenCharacter c = true) :
    isSpace c = false := by
  by_contra hspace
  have hcases : c = '\n' ∨ c = '\t' ∨ c = '\x0b' ∨ c = ' ' ∨ c = '\r' ∨ c = '\x0c' := by
    grind [isSpace]
  rcases hcases with rfl | rfl | rfl | rfl | rfl | rfl <;> exact absurd hc (by decide)

theorem strip_of_isTokenString {s : Chars} (hs : isTokenString s = true) : strip s = s :=
  strip_eq_self fun _ hc => isSpace_of_isTokenCharacter (isTokenCharacter_of_mem hs hc)

theorem not_mem_of_isTokenString {s : Chars} {c : Char} (hs : isTokenString s = true)
    (hc : isTokenCharacter c = false) : c ∉ s := fun hmem => by
  rw [isTokenCharacter_of_mem hs hmem] at hc
  exact Bool.noConfusion hc

theorem newline_not_mem_setNumber (n : Int) : '\n' ∉ setNumber n :=
  not_mem_setNumber n (by decide) (by decide)

section Version

/-- The version of a v-line is not negative. -/
def versionSurvives (body : Chars) : Bool := decide (0 ≤ toInt32 body)

theorem version_decode_value_iff {body : Chars} {v : SdpVersion}
    (h : SdpVersion.decode body = some v) :
    SdpVersion.decode v.value = some v ↔ versionSurvives body = true := by
  obtain ⟨n, hn, rfl⟩ := Option.map_eq_some_iff.mp h
  have hrange := toInt32?_range hn
  have hbody : toInt32 body = n := by rw [toInt32, hn, Option.getD_some]
  rw [versionSurvives, hbody, decide_eq_true_iff, SdpVersion.decode, SdpVersion.value]
  constructor
  · intro hdecode
    obtain ⟨m, hm, h⟩ := Option.map_eq_some_iff.mp hdecode
    obtain rfl : m = n := congrArg SdpVersion.version h
    by_contra hnegative
    have hprinted : toInt32? (setNumber (m % 2 ^ 32)) = none := by
      have hvalue : m % 2 ^ 32 = m + 2 ^ 32 := by omega
      unfold toInt32?
      rw [cString_setNumber, stripLeading_setNumber, readSign_setNumber, if_neg fun h => h.1 h.2,
        if_neg (by simp [all_isDigit_toDigits])]
      simp only [digitsToNat_toDigits]
      rw [if_neg]
      rw [hvalue, if_neg (by simp; omega)]
      omega
    rw [hprinted] at hm
    exact absurd hm (by simp)
  · intro hpositive
    have hvalue : n % 2 ^ 32 = n := by omega
    rw [hvalue, toInt32?_setNumber hrange.1 hrange.2, Option.map_some]

end Version

section Origin

theorem origin_value_eq {body : Chars} {o : SdpOrigin} (h : SdpOrigin.decode body = some o) :
    o.value = body := by
  unfold SdpOrigin.decode at h
  split at h
  · next hsplit =>
    rw [splitLine_six hsplit]
    simp only [Option.bind_eq_bind, Option.bind_eq_some_iff, guard_eq_some_iff, exists_const,
      Option.pure_def, Option.some.injEq] at h
    obtain ⟨-, -, -, -, -, -, -, -, rfl⟩ := h
    rfl
  · exact absurd h (by simp)

theorem checkValidityForAddress_ne_nil {address : Chars} {addrType : AddrType}
    (h : checkValidityForAddress address addrType = true) : address ≠ [] := by
  rintro rfl
  cases addrType <;> exact absurd h (by decide)

theorem decodeNetType_ne_nil {s : Chars} {t : NetType} (h : decodeNetType s = some t) : s ≠ [] := by
  rintro rfl
  exact absurd h (by decide +revert)

theorem decodeAddrType_ne_nil {s : Chars} {t : AddrType} (h : decodeAddrType s = some t) :
    s ≠ [] := by
  rintro rfl
  exact absurd h (by decide +revert)

theorem origin_isValid {body : Chars} {o : SdpOrigin} (h : SdpOrigin.decode body = some o) :
    o.isValid = true := by
  unfold SdpOrigin.decode at h
  split at h
  · simp only [Option.bind_eq_bind, Option.bind_eq_some_iff, guard_eq_some_iff, exists_const,
      Option.pure_def, Option.some.injEq] at h
    obtain ⟨husername, hid, hversion, netType, hnet, addrType, haddr, hcheck, rfl⟩ := h
    simp only [isNonWsString, isDigitString, Bool.and_eq_true] at husername hid hversion
    have hnet := decodeNetType_ne_nil hnet
    have haddr := decodeAddrType_ne_nil haddr
    have hcheck := checkValidityForAddress_ne_nil hcheck
    simp [SdpOrigin.isValid, husername.1, hid.1, hversion.1, hnet, haddr, hcheck]
  · exact absurd h (by simp)

end Origin

section Connection

/-- The fields behind the address of a c-line. -/
def multicastFields (body : Chars) : List Chars :=
  match splitLine 3 body with
  | some [_, _, connectionAddress] => (split '/' connectionAddress).drop 1
  | _ => []

/-- The multicast fields of a c-line are absent or zero. -/
def connectionSurvives (body : Chars) : Bool :=
  match multicastFields body with
  | [] => true
  | [ttl, numOfAddress] => decide (toInt32 ttl = 0 ∧ toInt32 numOfAddress = 0)
  | ttl :: _ => decide (toInt32 ttl = 0)

/-- What is known of the fields of a decoded c-line. -/
structure ConnectionRead (body : Chars) (c : SdpConnection) : Prop where
  netSpace : ' ' ∉ c.strNetType
  addrSpace : ' ' ∉ c.strAddrType
  slash : '/' ∉ c.address
  strip_eq : strip c.address = c.address
  netType : decodeNetType c.strNetType = some c.netType
  addrType : decodeAddrType c.strAddrType = some c.addrType
  address : checkValidityForAddress c.address c.addrType = true
  newline : '\n' ∉ body → '\n' ∉ c.strNetType ∧ '\n' ∉ c.strAddrType ∧ '\n' ∉ c.address
  survives : connectionSurvives body = true ↔ c.ttl = 0 ∧ c.numOfAddress = 0

theorem connection_decode_spec {body : Chars} {c : SdpConnection}
    (h : SdpConnection.decode body = some c) : ConnectionRead body c := by
  unfold SdpConnection.decode at h
  split at h
  · next strNetType strAddrType connectionAddress hsplit =>
    obtain ⟨hbody, hnetSpace, haddrSpace⟩ := splitLine_three hsplit
    simp only [Option.bind_eq_bind, guard_eq_some_iff, exists_const, Option.bind_eq_some_iff] at h
    obtain ⟨netType, hnet, addrType, haddr, -, h⟩ := h
    split at h
    · next address multicast htokens =>
      have hfields : multicastFields body = multicast := by
        simp only [multicastFields, hsplit, htokens, List.drop_one, List.tail_cons]
      have haddress : address ∈ split '/' connectionAddress := by rw [htokens]; simp
      have hslash : '/' ∉ address := fun hc => (mem_of_mem_split haddress hc).2 rfl
      have hstrip : strip address = address := strip_eq_of_mem_split haddress
      have hnewline : '\n' ∉ body → '\n' ∉ strNetType ∧ '\n' ∉ strAddrType ∧ '\n' ∉ address := by
        intro hnot
        have haddressNot : '\n' ∉ connectionAddress → '\n' ∉ address :=
          mt fun hc => (mem_of_mem_split haddress hc).1
        simp_all
      have hread : ∀ {ttl numOfAddress : Int},
          checkValidityForAddress address addrType = true →
          (connectionSurvives body = true ↔ ttl = 0 ∧ numOfAddress = 0) →
          ConnectionRead body
            { netType, strNetType, addrType, strAddrType, address, ttl, numOfAddress } :=
        fun hcheck hsurvives => ⟨hnetSpace, haddrSpace, hslash, hstrip, hnet, haddr, hcheck,
          hnewline, hsurvives⟩
      unfold connectionSurvives at hread
      rw [hfields] at hread
      -- The time to live is read whenever there is one, the number only of two fields.
      rcases multicast with _ | ⟨strTtl, _ | ⟨strCount, _ | ⟨next, fields⟩⟩⟩
      all_goals
        simp only [guard_eq_some_iff, exists_const, Option.bind_eq_some_iff, Option.some.injEq,
          Option.pure_def, exists_eq_left'] at h
      · obtain ⟨hcheck, rfl⟩ := h
        exact hread hcheck (by simp)
      · obtain ⟨ttl, httl, hcheck, rfl⟩ := h
        exact hread hcheck (by simp [toInt32, httl])
      · obtain ⟨ttl, httl, numOfAddress, hcount, hcheck, rfl⟩ := h
        exact hread hcheck (by simp [toInt32, httl, hcount])
      · obtain ⟨ttl, httl, hcheck, rfl⟩ := h
        exact hread hcheck (by simp [toInt32, httl])
    · exact absurd h (by simp)
  · exact absurd h (by simp)

/-- What is printed of a c-line decodes to the line without its multicast fields. -/
theorem connection_decode_value {body : Chars} {c : SdpConnection} (h : ConnectionRead body c) :
    SdpConnection.decode c.value = some { c with ttl := 0, numOfAddress := 0 } := by
  have hsplit : splitLine 3 c.value = some [c.strNetType, c.strAddrType, c.address] := by
    rw [SdpConnection.value, splitLine_append h.netSpace, splitLine_append h.addrSpace,
      splitLine_one]
    rfl
  have hne := checkValidityForAddress_ne_nil h.address
  have htokens : split '/' c.address = [c.address] := by
    rw [split_of_not_mem h.slash, h.strip_eq]
  simp [SdpConnection.decode, hsplit, h.netType, h.addrType, hne, htokens, h.address]

theorem connection_decode_value_iff {body : Chars} {c : SdpConnection}
    (h : SdpConnection.decode body = some c) :
    SdpConnection.decode c.value = some c ↔ connectionSurvives body = true := by
  have hread := connection_decode_spec h
  rw [connection_decode_value hread, hread.survives]
  constructor
  · intro hc
    have hc := Option.some.inj hc
    exact ⟨(congrArg SdpConnection.ttl hc).symm, (congrArg SdpConnection.numOfAddress hc).symm⟩
  · rintro ⟨httl, hcount⟩
    cases c
    simp_all

theorem connection_isValid {body : Chars} {c : SdpConnection}
    (h : SdpConnection.decode body = some c) : c.isValid = true := by
  have hread := connection_decode_spec h
  simp [SdpConnection.isValid, decodeNetType_ne_nil hread.netType,
    decodeAddrType_ne_nil hread.addrType, checkValidityForAddress_ne_nil hread.address]

theorem newline_not_mem_connection_value {body : Chars} {c : SdpConnection} (hbody : '\n' ∉ body)
    (h : SdpConnection.decode body = some c) : '\n' ∉ c.value := by
  have hnewline := (connection_decode_spec h).newline hbody
  simp [SdpConnection.value, hnewline]

end Connection

section TextLines

theorem sessionName_name_eq {body : Chars} {n : SdpSessionName}
    (h : SdpSessionName.decode body = some n) : n.name = body := by
  grind [SdpSessionName.decode]

theorem information_eq {body : Chars} {i : SdpInformation}
    (h : SdpInformation.decode body = some i) : i.information = body ∧ body ≠ [] := by
  grind [SdpInformation.decode, isTextString]

theorem uri_eq {body : Chars} {u : SdpUri} (h : SdpUri.decode body = some u) :
    u.uri = body ∧ body ≠ [] := by
  grind [SdpUri.decode, isUriString]

end TextLines

section Bandwidth

theorem digitString_eq {s : Chars} (hs : isDigitString s = true) :
    ∃ c text, s = c :: text ∧ isDigit c = true := by
  cases s with
  | nil => exact absurd hs (by decide)
  | cons c text =>
    have hall : (c :: text).all isDigit = true := (Bool.and_eq_true_iff.mp hs).2
    exact ⟨c, text, rfl, List.all_eq_true.mp hall c (by simp)⟩

theorem isDigitString_setNumber (n : Nat) : isDigitString (setNumber n) = true := by
  rw [setNumber_natCast, isDigitString, all_isDigit_toDigits, Bool.and_true]
  simp

theorem toInt32_nonneg_of_isDigitString {s : Chars} (hs : isDigitString s = true) :
    0 ≤ toInt32 s := by
  obtain ⟨c, text, rfl, hc⟩ := digitString_eq hs
  have hnul : c ≠ nul := by rintro rfl; exact absurd hc (by decide)
  have hminus : c ≠ '-' := by rintro rfl; exact absurd hc (by decide)
  have hplus : c ≠ '+' := by rintro rfl; exact absurd hc (by decide)
  have hspace : isSpace c = false := by
    by_contra hspace
    have hcases : c = '\n' ∨ c = '\t' ∨ c = '\x0b' ∨ c = ' ' ∨ c = '\r' ∨ c = '\x0c' := by
      grind [isSpace]
    rcases hcases with rfl | rfl | rfl | rfl | rfl | rfl <;> exact absurd hc (by decide)
  have hcString : cString (c :: text) = c :: cString text :=
    List.takeWhile_cons_of_pos (by simpa using hnul)
  have hleading : stripLeading (c :: cString text) = c :: cString text :=
    List.dropWhile_cons_of_neg (by simp [hspace])
  unfold toInt32 toInt32?
  rw [hcString, hleading, readSign_of_digits hminus hplus]
  grind

theorem bandwidth_spec {body : Chars} {b : SdpBandwidth} (h : SdpBandwidth.decode body = some b) :
    isTokenString b.strType = true ∧ b.type = SdpBandwidth.decodeType b.strType ∧
      0 ≤ b.bandwidth ∧ b.bandwidth < 2 ^ 31 := by
  unfold SdpBandwidth.decode at h
  split at h
  · split at h
    · next hstrings =>
      obtain rfl := Option.some.inj h
      exact ⟨hstrings.1, rfl, toInt32_nonneg_of_isDigitString hstrings.2, (toInt32_range _).2⟩
    · exact absurd h (by simp)
  · exact absurd h (by simp)

theorem bandwidth_decode_value {body : Chars} {b : SdpBandwidth}
    (h : SdpBandwidth.decode body = some b) : SdpBandwidth.decode b.value = some b := by
  obtain ⟨htoken, htype, hlow, hhigh⟩ := bandwidth_spec h
  obtain ⟨n, hn⟩ := Int.eq_ofNat_of_zero_le hlow
  have hcolon : ':' ∉ b.strType := not_mem_of_isTokenString htoken (by decide)
  have hcolon' : ':' ∉ setNumber b.bandwidth := not_mem_setNumber _ (by decide) (by decide)
  have hsplit : split ':' b.value = [b.strType, setNumber b.bandwidth] := by
    rw [SdpBandwidth.value, split_append_cons hcolon, split_of_not_mem hcolon',
      strip_of_isTokenString htoken, strip_setNumber]
  have hdigits : isDigitString (setNumber b.bandwidth) = true := by
    rw [hn]
    exact isDigitString_setNumber n
  unfold SdpBandwidth.decode
  rw [hsplit]
  simp only [htoken, hdigits, and_self, if_true, toInt32_setNumber (by omega) hhigh, ← htype]

theorem bandwidth_strType_ne_nil {body : Chars} {b : SdpBandwidth}
    (h : SdpBandwidth.decode body = some b) : b.strType ≠ [] := by
  obtain ⟨htoken, -⟩ := bandwidth_spec h
  intro hnil
  exact absurd (hnil ▸ htoken) (by decide)

theorem newline_not_mem_bandwidth_value {body : Chars} {b : SdpBandwidth}
    (h : SdpBandwidth.decode body = some b) : '\n' ∉ b.value := by
  obtain ⟨htoken, -⟩ := bandwidth_spec h
  simp [SdpBandwidth.value, not_mem_of_isTokenString htoken, newline_not_mem_setNumber,
    show isTokenCharacter '\n' = false by decide]

end Bandwidth

section Time

theorem space_not_mem_setNumber (n : Int) : ' ' ∉ setNumber n :=
  not_mem_setNumber n (by decide) (by decide)

theorem time_decode_value {body : Chars} {t : SdpTime} (h : SdpTime.decode body = some t) :
    SdpTime.decode t.value = some t := by
  unfold SdpTime.decode at h
  split at h
  · split at h
    · obtain rfl := Option.some.inj h
      unfold SdpTime.decode SdpTime.value
      rw [splitLine_append (space_not_mem_setNumber _), splitLine_one]
      simp only [Option.map_some, isDigitString_setNumber, and_self, if_true,
        toUInt32_setNumber (toUInt32_lt _)]
    · exact absurd h (by simp)
  · exact absurd h (by simp)

theorem newline_not_mem_time_value (t : SdpTime) : '\n' ∉ t.value := by
  simp [SdpTime.value, newline_not_mem_setNumber, -setNumber_natCast]

end Time

section RepeatTime

theorem isTypedTimeString_setNumber (n : Nat) : isTypedTimeString (setNumber n) = true := by
  have hall : ∀ c ∈ setNumber (n : Int),
      (isDigit c || c == 'd' || c == 'h' || c == 'm' || c == 's') = true := by
    intro c hc
    rw [setNumber_natCast] at hc
    simp [isDigit_of_mem_toDigits hc]
  rw [isTypedTimeString, List.all_eq_true.mpr hall, Bool.and_true]
  simp

theorem timeUnit?_of_isDigit {c : Char} (hc : isDigit c = true) : timeUnit? c = none := by
  unfold timeUnit?
  split <;> first | rfl | exact absurd hc (by decide)

theorem convertTypedTimeToSeconds_setNumber {n : Nat} (hn : n < 2 ^ 32) :
    convertTypedTimeToSeconds (setNumber n) = n := by
  have hunit : (setNumber (n : Int)).getLast?.bind timeUnit? = none := by
    rw [setNumber_natCast]
    cases hlast : (Nat.toDigits 10 n).getLast? with
    | none => rfl
    | some c => exact timeUnit?_of_isDigit (isDigit_of_mem_toDigits (List.mem_of_getLast? hlast))
  rw [convertTypedTimeToSeconds, hunit]
  show toUInt32 (setNumber n) % 2 ^ 32 = n
  rw [toUInt32_setNumber hn, Nat.mod_eq_of_lt hn]

theorem decodeTypedTime_setNumber {n : Nat} (hn : n < 2 ^ 32) :
    decodeTypedTime (setNumber n) = some n := by
  rw [decodeTypedTime, if_pos (isTypedTimeString_setNumber n),
    convertTypedTimeToSeconds_setNumber hn]

theorem decodeTypedTime_lt {s : Chars} {n : Nat} (h : decodeTypedTime s = some n) : n < 2 ^ 32 := by
  unfold decodeTypedTime at h
  split at h
  · obtain rfl := Option.some.inj h
    unfold convertTypedTimeToSeconds
    split <;> exact Nat.mod_lt _ (by decide)
  · exact absurd h (by simp)

theorem split_spacedNumbers (n : Nat) (ns : List Nat) :
    split ' ' (setNumber n ++ spacedNumbers ns) = (n :: ns).map fun n : Nat => setNumber n := by
  induction ns generalizing n with
  | nil =>
    rw [spacedNumbers, List.flatMap_nil, List.append_nil,
      split_of_not_mem (space_not_mem_setNumber n), strip_setNumber]
    rfl
  | cons m ns ih =>
    have htext : spacedNumbers (m :: ns) = ' ' :: (setNumber m ++ spacedNumbers ns) := rfl
    rw [htext, split_append_cons (space_not_mem_setNumber n), strip_setNumber, ih]
    rfl

/-- Neither the repeat interval nor the active duration of an r-line is zero. -/
def repeatSurvives (body : Chars) : Bool :=
  match splitLine 3 body with
  | some [interval, duration, _] =>
    decide (convertTypedTimeToSeconds interval ≠ 0 ∧ convertTypedTimeToSeconds duration ≠ 0)
  | _ => false

theorem repeat_decode_spec {body : Chars} {r : SdpRepeatTime}
    (h : SdpRepeatTime.decode body = some r) :
    r.repeatInterval < 2 ^ 32 ∧ r.activeDuration < 2 ^ 32 ∧
      (∀ n ∈ r.firstOffset :: r.additionalOffsets, n < 2 ^ 32) ∧
        (r.isValid = true ↔ repeatSurvives body = true) := by
  unfold SdpRepeatTime.decode at h
  split at h
  · next interval duration offsets hsplit =>
    simp only [Option.bind_eq_bind, guard_eq_some_iff, exists_const, Option.bind_eq_some_iff] at h
    obtain ⟨-, repeatInterval, hinterval, activeDuration, hduration, numbers, hnumbers, h⟩ := h
    split at h
    · next firstOffset additionalOffsets =>
      obtain rfl := Option.some.inj h
      refine ⟨decodeTypedTime_lt hinterval, decodeTypedTime_lt hduration, ?_, ?_⟩
      · intro n hn
        obtain ⟨s, -, hs⟩ := exists_mem_of_mapM_eq_some hnumbers n hn
        exact decodeTypedTime_lt hs
      · have hvalue : ∀ {s n}, decodeTypedTime s = some n → convertTypedTimeToSeconds s = n := by
          intro s n hs
          grind [decodeTypedTime]
        simp [SdpRepeatTime.isValid, repeatSurvives, hsplit, hvalue hinterval, hvalue hduration]
    · exact absurd h (by simp)
  · exact absurd h (by simp)

theorem repeat_decode_value {body : Chars} {r : SdpRepeatTime}
    (h : SdpRepeatTime.decode body = some r) (hvalid : r.isValid = true) :
    SdpRepeatTime.decode r.value = some r := by
  obtain ⟨hinterval, hduration, hoffsets, -⟩ := repeat_decode_spec h
  have hne : r.repeatInterval ≠ 0 := (of_decide_eq_true hvalid).1
  have hsplit : splitLine 3 r.value = some [setNumber r.repeatInterval, setNumber r.activeDuration,
      setNumber r.firstOffset ++ spacedNumbers r.additionalOffsets] := by
    rw [SdpRepeatTime.value, splitLine_append (space_not_mem_setNumber _),
      splitLine_append (space_not_mem_setNumber _), splitLine_one]
    rfl
  have hfirst : ((setNumber r.repeatInterval).head?.any fun c => decide ('1' ≤ c ∧ c ≤ '9')) =
      true := by
    rw [setNumber_natCast]
    exact head_toDigits_any hne
  have hmapM : (split ' ' (setNumber r.firstOffset ++ spacedNumbers r.additionalOffsets)).mapM
      decodeTypedTime = some (r.firstOffset :: r.additionalOffsets) := by
    rw [split_spacedNumbers, mapM_map_eq_some_iff]
    exact fun n hn => decodeTypedTime_setNumber (hoffsets n hn)
  unfold SdpRepeatTime.decode
  rw [hsplit]
  simp only [hfirst, hmapM, decodeTypedTime_setNumber hinterval,
    decodeTypedTime_setNumber hduration]
  rfl

theorem newline_not_mem_spacedNumbers (ns : List Nat) : '\n' ∉ spacedNumbers ns := by
  intro h
  obtain ⟨n, -, hn⟩ := List.mem_flatMap.mp h
  rcases List.mem_cons.mp hn with hn | hn
  · exact absurd hn (by decide)
  · exact newline_not_mem_setNumber n hn

theorem newline_not_mem_repeat_value (r : SdpRepeatTime) : '\n' ∉ r.value := by
  simp [SdpRepeatTime.value, newline_not_mem_setNumber, newline_not_mem_spacedNumbers,
    -setNumber_natCast]

end RepeatTime

section Timezone

/-- The tokens of an adjustment. -/
def zoneTokens (z : ZoneAdjustment) : List Chars := [setNumber z.adjustmentTime, setNumber z.offset]

theorem split_zoneValues (z : ZoneAdjustment) (zs : List ZoneAdjustment) :
    split ' ' ([' '].intercalate ((z :: zs).map ZoneAdjustment.value)) =
      (z :: zs).flatMap zoneTokens := by
  induction zs generalizing z with
  | nil =>
    have htext : [' '].intercalate ([z].map ZoneAdjustment.value) = z.value := by simp
    rw [htext, ZoneAdjustment.value, split_append_cons (space_not_mem_setNumber _),
      split_of_not_mem (space_not_mem_setNumber _), strip_setNumber, strip_setNumber]
    rfl
  | cons z' zs ih =>
    have htext : [' '].intercalate ((z :: z' :: zs).map ZoneAdjustment.value) =
        setNumber z.adjustmentTime ++ ' ' :: (setNumber z.offset ++
          ' ' :: [' '].intercalate ((z' :: zs).map ZoneAdjustment.value)) := by
      simp [List.intercalate, ZoneAdjustment.value]
    rw [htext, split_append_cons (space_not_mem_setNumber _),
      split_append_cons (space_not_mem_setNumber _), ih, strip_setNumber, strip_setNumber]
    rfl

theorem decodeAdjustments_zoneTokens_iff (zs : List ZoneAdjustment) :
    SdpTimezone.decodeAdjustments (zs.flatMap zoneTokens) = some zs ↔
      ∀ z ∈ zs, ZoneAdjustment.decode (setNumber z.adjustmentTime) (setNumber z.offset) = some z := by
  induction zs with
  | nil => simp [SdpTimezone.decodeAdjustments]
  | cons z zs ih =>
    have htokens : (z :: zs).flatMap zoneTokens =
        setNumber z.adjustmentTime :: setNumber z.offset :: zs.flatMap zoneTokens := rfl
    rw [htokens, SdpTimezone.decodeAdjustments, List.forall_mem_cons, ← ih]
    simp only [Option.bind_eq_bind, Option.bind_eq_some_iff, Option.pure_def, Option.some.injEq,
      List.cons.injEq]
    constructor
    · rintro ⟨z', hz, zs', hzs, rfl, rfl⟩
      exact ⟨hz, hzs⟩
    · rintro ⟨hz, hzs⟩
      exact ⟨z, hz, zs, hzs, rfl, rfl⟩

theorem toSigned32_range (n : Int) : -2 ^ 31 ≤ toSigned32 n ∧ toSigned32 n < 2 ^ 31 := by
  unfold toSigned32
  omega

theorem zone_decode_spec {adjustment offset : Chars} {z : ZoneAdjustment}
    (h : ZoneAdjustment.decode adjustment offset = some z) :
    z.adjustmentTime = toUInt32 adjustment ∧ -2 ^ 31 ≤ z.offset ∧ z.offset < 2 ^ 31 := by
  simp only [ZoneAdjustment.decode, Option.bind_eq_bind, Option.bind_eq_some_iff,
    guard_eq_some_iff, exists_const, Option.pure_def, Option.some.injEq] at h
  obtain ⟨-, -, rfl⟩ := h
  refine ⟨rfl, ?_⟩
  dsimp only
  split <;> exact toSigned32_range _

theorem zone_decode_setNumber {n : Nat} {offset : Int} (hn : n < 2 ^ 32)
    (hlow : -2 ^ 31 ≤ offset) (hhigh : offset < 2 ^ 31) :
    ZoneAdjustment.decode (setNumber n) (setNumber offset) =
      if 10 ^ 9 ≤ n then some { adjustmentTime := n, offset } else none := by
  have hlength : (setNumber (n : Int)).length = 10 ↔ 10 ^ 9 ≤ n := by
    rw [setNumber_natCast, length_toDigits_eq_ten_iff]
    omega
  have hread : readMinus (setNumber offset) =
      (decide (offset < 0), setNumber (offset.natAbs : Int)) := by
    rw [setNumber_natCast]
    unfold setNumber
    split
    · next hnegative => simp [readMinus, hnegative]
    · next hnegative =>
      obtain ⟨c, text, htext, hminus, -⟩ := toDigits_eq_cons offset.natAbs
      rw [htext]
      unfold readMinus
      split <;> simp_all
  have habs : offset.natAbs < 2 ^ 32 := by omega
  unfold ZoneAdjustment.decode
  rw [hread]
  by_cases hdigits : 10 ^ 9 ≤ n
  · rw [if_pos hdigits]
    simp only [guard, hlength, hdigits, isDigitString_setNumber, and_self, if_true,
      isTypedTimeString_setNumber, toUInt32_setNumber hn, convertTypedTimeToSeconds_setNumber habs]
    simp only [pure, Option.bind_eq_bind, Option.bind_some, Option.some.injEq,
      ZoneAdjustment.mk.injEq, true_and]
    split
    · next hnegative =>
      have := of_decide_eq_true hnegative
      unfold toSigned32
      omega
    · next hnegative =>
      have := of_decide_eq_false (Bool.eq_false_iff.mpr hnegative)
      unfold toSigned32
      omega
  · rw [if_neg hdigits]
    simp only [guard, hlength, hdigits, false_and, if_false]
    rfl

/-- The adjustments of a z-line: every other token from the first one on. -/
def adjustmentTokens : List Chars → List Chars
  | adjustment :: _ :: tokens => adjustment :: adjustmentTokens tokens
  | _ => []

/-- The adjustments of a z-line are numbers of ten digits and of 32 bits. -/
def zoneSurvives (body : Chars) : Bool :=
  (adjustmentTokens (split ' ' body)).all fun adjustment =>
    decide (10 ^ 9 ≤ toUInt32 adjustment)

theorem decodeAdjustments_spec {tokens : List Chars} {zs : List ZoneAdjustment}
    (h : SdpTimezone.decodeAdjustments tokens = some zs) :
    zs.map ZoneAdjustment.adjustmentTime = (adjustmentTokens tokens).map toUInt32 ∧
      ∀ z ∈ zs, z.adjustmentTime < 2 ^ 32 ∧ -2 ^ 31 ≤ z.offset ∧ z.offset < 2 ^ 31 := by
  induction tokens using SdpTimezone.decodeAdjustments.induct generalizing zs with
  | case1 =>
    obtain rfl := Option.some.inj h
    simp [adjustmentTokens]
  | case2 => exact absurd h (by simp [SdpTimezone.decodeAdjustments])
  | case3 adjustment offset tokens ih =>
    simp only [SdpTimezone.decodeAdjustments, Option.bind_eq_bind, Option.bind_eq_some_iff,
      Option.pure_def, Option.some.injEq] at h
    obtain ⟨z, hz, zs, hzs, rfl⟩ := h
    obtain ⟨htime, hlow, hhigh⟩ := zone_decode_spec hz
    obtain ⟨htimes, hrange⟩ := ih hzs
    constructor
    · rw [List.map_cons, adjustmentTokens, List.map_cons, htimes, htime]
    · rw [List.forall_mem_cons]
      exact ⟨⟨htime ▸ toUInt32_lt _, hlow, hhigh⟩, hrange⟩

theorem timezone_decode_spec {body : Chars} {z : SdpTimezone}
    (h : SdpTimezone.decode body = some z) :
    z.zoneAdjustments ≠ [] ∧
      SdpTimezone.decodeAdjustments (split ' ' body) = some z.zoneAdjustments := by
  unfold SdpTimezone.decode at h
  dsimp only at h
  split at h
  · exact absurd h (by simp)
  · next hlength =>
    obtain ⟨zs, hzs, rfl⟩ := Option.map_eq_some_iff.mp h
    refine ⟨?_, hzs⟩
    rintro rfl
    match hsplit : split ' ' body, hlength, hzs with
    | [], hlength, _ => exact hlength (by simp)
    | [_], hlength, _ => exact hlength (by simp)
    | _ :: _ :: _, _, hzs => simp [SdpTimezone.decodeAdjustments, Option.bind_eq_some_iff] at hzs

theorem timezone_decode_value_iff {body : Chars} {z : SdpTimezone}
    (h : SdpTimezone.decode body = some z) :
    SdpTimezone.decode z.value = some z ↔ zoneSurvives body = true := by
  obtain ⟨hne, hdecode⟩ := timezone_decode_spec h
  obtain ⟨htimes, hrange⟩ := decodeAdjustments_spec hdecode
  have hsurvives : zoneSurvives body = true ↔
      ∀ z' ∈ z.zoneAdjustments, 10 ^ 9 ≤ z'.adjustmentTime := by
    have hmap : zoneSurvives body = (z.zoneAdjustments.map ZoneAdjustment.adjustmentTime).all
        fun n => decide (10 ^ 9 ≤ n) := by
      rw [htimes, List.all_map]
      rfl
    simp [hmap]
  have hsplit : split ' ' z.value = z.zoneAdjustments.flatMap zoneTokens := by
    obtain ⟨z', zs, hz⟩ := List.exists_cons_of_ne_nil hne
    rw [SdpTimezone.value, hz, split_zoneValues]
  have hlength : ¬ (z.zoneAdjustments.flatMap zoneTokens).length < 2 := by
    obtain ⟨z', zs, hz⟩ := List.exists_cons_of_ne_nil hne
    simp [hz, zoneTokens]
  have hvalue : SdpTimezone.decode z.value = some z ↔
      SdpTimezone.decodeAdjustments (z.zoneAdjustments.flatMap zoneTokens) =
        some z.zoneAdjustments := by
    unfold SdpTimezone.decode
    rw [hsplit]
    dsimp only
    rw [if_neg hlength, Option.map_eq_some_iff]
    constructor
    · rintro ⟨zs, hzs, rfl⟩
      exact hzs
    · exact fun hzs => ⟨_, hzs, rfl⟩
  rw [hvalue, decodeAdjustments_zoneTokens_iff, hsurvives]
  refine forall_congr' fun z' => forall_congr' fun hz' => ?_
  obtain ⟨htime, hlow, hhigh⟩ := hrange z' hz'
  rw [zone_decode_setNumber htime hlow hhigh]
  simp

theorem newline_not_mem_timezone_value (z : SdpTimezone) : '\n' ∉ z.value := by
  unfold SdpTimezone.value
  induction z.zoneAdjustments with
  | nil => simp
  | cons z' zs ih =>
    cases zs with
    | nil => simp [ZoneAdjustment.value, newline_not_mem_setNumber, -setNumber_natCast]
    | cons z'' zs =>
      simp only [List.map_cons, List.intercalate_cons_cons, List.mem_append, not_or] at ih ⊢
      refine ⟨⟨?_, by simp⟩, ih⟩
      simp [ZoneAdjustment.value, newline_not_mem_setNumber, -setNumber_natCast]

end Timezone

section EncryptionKey

theorem key_decode_value {body : Chars} {k : SdpEncryptionKey}
    (h : SdpEncryptionKey.decode body = some k) : SdpEncryptionKey.decode k.value = some k := by
  simp only [SdpEncryptionKey.decode, Option.bind_eq_bind, Option.bind_eq_some_iff,
    guard_eq_some_iff, exists_const, Option.pure_def, Option.some.injEq] at h
  obtain ⟨method, -, hkey, rfl⟩ := h
  cases method with
  | prompt =>
    rw [hkey.mp rfl]
    decide
  | _ =>
    have hkey : (body.dropWhile (· ≠ ':')).drop 1 ≠ [] := mt hkey.mpr (by decide)
    generalize (body.dropWhile (· ≠ ':')).drop 1 = key at hkey ⊢
    simp [SdpEncryptionKey.value, SdpEncryptionKey.decode, EncryptionMethod.text, hkey,
      List.find?, equalsLiteral, cString, nul, guard]

theorem newline_not_mem_key_value {body : Chars} {k : SdpEncryptionKey} (hbody : '\n' ∉ body)
    (h : SdpEncryptionKey.decode body = some k) : '\n' ∉ k.value := by
  simp only [SdpEncryptionKey.decode, Option.bind_eq_bind, Option.bind_eq_some_iff,
    guard_eq_some_iff, exists_const, Option.pure_def, Option.some.injEq] at h
  obtain ⟨method, -, hkey, rfl⟩ := h
  have hnot : '\n' ∉ (body.dropWhile (· ≠ ':')).drop 1 := fun hmem =>
    hbody ((List.dropWhile_sublist _).mem (List.mem_of_mem_drop hmem))
  generalize (body.dropWhile (· ≠ ':')).drop 1 = key at hnot ⊢
  cases method <;> simp [SdpEncryptionKey.value, EncryptionMethod.text, hnot]

end EncryptionKey

section Media

/-- The m-line has a format. -/
def mediaSurvives (body : Chars) : Bool :=
  match splitLine 4 body with
  | some [_, _, _, payloads] => !payloads.isEmpty
  | _ => false

theorem decodePort_portValue {m : SdpMedia} (hport : -2 ^ 31 ≤ m.port ∧ m.port < 2 ^ 31)
    (hcount : -2 ^ 31 ≤ m.numOfPort ∧ m.numOfPort < 2 ^ 31) :
    SdpMedia.decodePort m.portValue = some (m.port, m.numOfPort) := by
  have hslash : ∀ c ∈ setNumber m.port, decide (c ≠ '/') = true := fun c hc =>
    decide_eq_true fun h => not_mem_setNumber m.port (by decide) (by decide) (h ▸ hc)
  unfold SdpMedia.decodePort SdpMedia.portValue
  by_cases hzero : m.numOfPort = 0
  · have hdrop : (setNumber m.port).dropWhile (· ≠ '/') = [] :=
      List.dropWhile_eq_nil_iff.mpr hslash
    rw [hzero, if_neg (by simp), List.append_nil, hdrop]
    simp only [toInt32?_setNumber hport.1 hport.2, Option.map_some]
  · have hdrop : (setNumber m.port ++ '/' :: setNumber m.numOfPort).dropWhile (· ≠ '/') =
        '/' :: setNumber m.numOfPort := by
      rw [List.dropWhile_append_of_pos hslash]
      exact List.dropWhile_cons_of_neg (by simp)
    have htake : (setNumber m.port ++ '/' :: setNumber m.numOfPort).takeWhile (· ≠ '/') =
        setNumber m.port := by
      rw [List.takeWhile_append_of_pos hslash, List.takeWhile_cons_of_neg (by simp),
        List.append_nil]
    rw [if_pos hzero, hdrop, htake]
    simp only [toInt32?_setNumber hport.1 hport.2, toInt32?_setNumber hcount.1 hcount.2]
    rfl

theorem decodePort_range {portInfo : Chars} {port numOfPort : Int}
    (h : SdpMedia.decodePort portInfo = some (port, numOfPort)) :
    (-2 ^ 31 ≤ port ∧ port < 2 ^ 31) ∧ -2 ^ 31 ≤ numOfPort ∧ numOfPort < 2 ^ 31 := by
  unfold SdpMedia.decodePort at h
  split at h
  · obtain ⟨n, hn, h⟩ := Option.map_eq_some_iff.mp h
    obtain ⟨rfl, rfl⟩ := Prod.mk.inj h
    exact ⟨toInt32?_range hn, by decide⟩
  · simp only [Option.bind_eq_bind, Option.bind_eq_some_iff, Option.pure_def, Option.some.injEq]
      at h
    obtain ⟨n, hn, count, hcount, h⟩ := h
    obtain ⟨rfl, rfl⟩ := Prod.mk.inj h
    exact ⟨toInt32?_range hn, toInt32?_range hcount⟩

theorem split_formats {f : Chars} {formats : List Chars}
    (h : ∀ f' ∈ f :: formats, isTokenString f' = true) :
    split ' ' (f ++ formats.flatMap (' ' :: ·)) = f :: formats := by
  induction formats generalizing f with
  | nil =>
    have hf := h f (by simp)
    rw [List.flatMap_nil, List.append_nil,
      split_of_not_mem (not_mem_of_isTokenString hf (by decide)), strip_of_isTokenString hf]
  | cons f' formats ih =>
    have hf := h f (by simp)
    have htext : (f' :: formats).flatMap (' ' :: ·) = ' ' :: (f' ++ formats.flatMap (' ' :: ·)) := rfl
    rw [htext, split_append_cons (not_mem_of_isTokenString hf (by decide)),
      strip_of_isTokenString hf, ih fun f'' hf'' => h f'' (List.mem_cons_of_mem f hf'')]

theorem space_not_mem_portValue (m : SdpMedia) : ' ' ∉ m.portValue := by
  unfold SdpMedia.portValue
  split <;> simp [space_not_mem_setNumber]

/-- What is known of the fields of a decoded m-line. -/
structure MediaRead (body : Chars) (m : SdpMedia) : Prop where
  mediaType : m.mediaType = SdpMedia.decodeType m.strMediaType
  mediaToken : m.mediaType = .other → isTokenString m.strMediaType = true
  mediaSpace : ' ' ∉ m.strMediaType
  port : (-2 ^ 31 ≤ m.port ∧ m.port < 2 ^ 31) ∧ -2 ^ 31 ≤ m.numOfPort ∧ m.numOfPort < 2 ^ 31
  transport : m.transportProtocol = SdpMedia.decodeTransportProtocol m.strTransportProtocol
  transportTokens : m.transportProtocol = .other →
    SdpMedia.isOtherTransportProtocol m.strTransportProtocol = true
  transportSpace : ' ' ∉ m.strTransportProtocol
  formats : ∀ f ∈ m.formats, isTokenString f = true
  newline : '\n' ∉ body → '\n' ∉ m.strMediaType ∧ '\n' ∉ m.strTransportProtocol
  survives : mediaSurvives body = true ↔ m.formats ≠ []

theorem media_decode_spec {body : Chars} {m : SdpMedia} (h : SdpMedia.decode body = some m) :
    MediaRead body m := by
  unfold SdpMedia.decode at h
  split at h
  · next strMediaType portInfo strTransportProtocol payloads hsplit =>
    obtain ⟨rfl, htypeSpace, -, htransportSpace⟩ := splitLine_four hsplit
    simp only [Option.bind_eq_bind, Option.bind_eq_some_iff, guard_eq_some_iff, exists_const,
      Option.pure_def, Option.some.injEq, Prod.exists] at h
    obtain ⟨htype, port, numOfPort, hport, htransport, hformats, rfl⟩ := h
    have hsurvives : mediaSurvives (strMediaType ++ ' ' :: (portInfo ++ ' ' ::
        (strTransportProtocol ++ ' ' :: payloads))) = true ↔
          (if payloads = [] then [] else split ' ' payloads) ≠ [] := by
      rw [mediaSurvives, hsplit]
      by_cases hnil : payloads = []
      · simp [hnil]
      · simp [hnil, split_ne_nil]
    exact {
      mediaType := rfl
      mediaToken := htype
      mediaSpace := htypeSpace
      port := decodePort_range hport
      transport := rfl
      transportTokens := htransport
      transportSpace := htransportSpace
      formats := List.all_eq_true.mp hformats
      newline := fun hnewline => by simp_all
      survives := hsurvives }
  · exact absurd h (by simp)

/-- An m-line is printed without the space in front of the formats when it has none. -/
theorem media_decode_value_of_nil {body : Chars} {m : SdpMedia} (h : MediaRead body m)
    (hnil : m.formats = []) : SdpMedia.decode m.value = none := by
  have hsplit : splitLine 4 m.value = none := by
    rw [SdpMedia.value, splitLine_append h.mediaSpace,
      splitLine_append (space_not_mem_portValue m), hnil, List.flatMap_nil, List.append_nil,
      splitLine_eq_none h.transportSpace]
    rfl
  rw [SdpMedia.decode, hsplit]

theorem media_decode_value_of_ne_nil {body : Chars} {m : SdpMedia} (h : MediaRead body m)
    (hne : m.formats ≠ []) : SdpMedia.decode m.value = some m := by
  obtain ⟨f, formats, hformats⟩ := List.exists_cons_of_ne_nil hne
  have htokens := h.formats
  rw [hformats] at htokens
  have hsplit : splitLine 4 m.value = some [m.strMediaType, m.portValue, m.strTransportProtocol,
      f ++ formats.flatMap (' ' :: ·)] := by
    have htext : (f :: formats).flatMap (' ' :: ·) =
        ' ' :: (f ++ formats.flatMap (' ' :: ·)) := rfl
    rw [SdpMedia.value, splitLine_append h.mediaSpace,
      splitLine_append (space_not_mem_portValue m), hformats, htext,
      splitLine_append h.transportSpace, splitLine_one]
    rfl
  have hpayloads : f ++ formats.flatMap (' ' :: ·) ≠ [] := by
    intro hnil
    have hf : f = [] := (List.append_eq_nil_iff.mp hnil).1
    exact absurd (hf ▸ htokens f (by simp)) (by decide)
  have hall : (f :: formats).all isTokenString = true := List.all_eq_true.mpr htokens
  unfold SdpMedia.decode
  rw [hsplit]
  dsimp only
  rw [if_neg hpayloads, split_formats htokens, ← h.mediaType, ← h.transport,
    guard_of h.mediaToken, guard_of h.transportTokens, guard_of hall,
    decodePort_portValue h.port.1 h.port.2, ← hformats]
  rfl

theorem media_decode_value_iff {body : Chars} {m : SdpMedia} (h : SdpMedia.decode body = some m) :
    SdpMedia.decode m.value = some m ↔ mediaSurvives body = true := by
  have hread := media_decode_spec h
  rw [hread.survives]
  constructor
  · intro hdecode hnil
    rw [media_decode_value_of_nil hread hnil] at hdecode
    exact absurd hdecode (by simp)
  · exact media_decode_value_of_ne_nil hread

theorem newline_not_mem_media_value {body : Chars} {m : SdpMedia} (hbody : '\n' ∉ body)
    (h : SdpMedia.decode body = some m) : '\n' ∉ m.value := by
  have hread := media_decode_spec h
  have hport : '\n' ∉ m.portValue := by
    unfold SdpMedia.portValue
    split <;> simp [newline_not_mem_setNumber]
  have hformats : '\n' ∉ m.formats.flatMap (' ' :: ·) := by
    intro hmem
    obtain ⟨f, hf, hc⟩ := List.mem_flatMap.mp hmem
    rcases List.mem_cons.mp hc with hc | hc
    · exact absurd hc (by decide)
    · exact not_mem_of_isTokenString (hread.formats f hf) (by decide) hc
  simp [SdpMedia.value, hread.newline hbody, hport, hformats]

end Media

section Attribute

theorem attribute_value_eq {body : Chars} {a : SdpAttribute}
    (h : SdpAttribute.decode body = some a) : a.value = body ∧ a.strAttribute ≠ [] := by
  unfold SdpAttribute.decode at h
  split at h
  · split at h
    · next htoken =>
      obtain rfl := Option.some.inj h
      exact ⟨rfl, by rintro rfl; exact absurd htoken (by decide)⟩
    · exact absurd h (by simp)
  · next c strAttrValue hdrop =>
    dsimp only at h
    split at h
    · next htoken =>
      obtain rfl := Option.some.inj h
      have hc : c = ':' := by
        have hhead := List.head?_dropWhile_not (fun c => decide (c ≠ ':')) body
        rw [hdrop] at hhead
        simpa using hhead
      constructor
      · conv_rhs => rw [← List.takeWhile_append_dropWhile (p := (· ≠ ':')) (l := body), hdrop, hc]
        rfl
      · intro hnil
        have htoken := htoken.1
        rw [show body.takeWhile (· ≠ ':') = [] from hnil] at htoken
        exact absurd htoken (by decide)
    · exact absurd h (by simp)

end Attribute

end ImsStack.Sdp.LineRoundTrip
