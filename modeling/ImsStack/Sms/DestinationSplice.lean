import ImsStack.Sms.TPduSlices
import ImsStack.Sms.UsatBasedSms

/-!
A message whose destination the USIM has replaced is parsed as the one before, with the new
destination.
-/

namespace ImsStack.Sms

open Library.Slicing Platform.Bytes

/-- Two digits an octet, the first in its lower half, and a filler behind an odd one. -/
def swappedBcd : List (Fin 15) → Octets
  | [] => []
  | [d] => [UInt8.ofNat (0xf0 + d.val)]
  | d :: e :: rest => UInt8.ofNat (16 * e.val + d.val) :: swappedBcd rest

/-- What `PhoneNumberUtils` makes of an address. -/
def calledPartyBcd (international : Bool) (digits : List (Fin 15)) : Octets :=
  (if international then 0x91 else 0x81) :: swappedBcd digits

/-- The digits of an address in a TPDU, as many as its first octet says. -/
def addressDigits : Octets → List Nat
  | length :: _ :: bcd =>
    (bcd.flatMap fun b : UInt8 => [(b &&& 0x0f).toNat, (b >>> 4).toNat]).take length.toNat
  | _ => []

/-- An SMS-SUBMIT. -/
structure SubmitTpdu where
  firstOctet : UInt8
  messageRef : UInt8
  digits : Nat
  typeOctet : UInt8
  bcd : Octets
  tail : Octets
  isSubmit : firstOctet &&& 0x03 = 1
  digits_le : digits ≤ 20
  length_bcd : bcd.length = (digits + 1) / 2

namespace SubmitTpdu

def destination (tpdu : SubmitTpdu) : Octets :=
  UInt8.ofNat tpdu.digits :: tpdu.typeOctet :: tpdu.bcd

def octets (tpdu : SubmitTpdu) : Octets :=
  tpdu.firstOctet :: tpdu.messageRef :: (tpdu.destination ++ tpdu.tail)

end SubmitTpdu

/-! ### The new destination -/

theorem length_swappedBcd (digits : List (Fin 15)) :
    (swappedBcd digits).length = (digits.length + 1) / 2 := by
  induction digits using swappedBcd.induct with
  | case1 => rfl
  | case2 d => simp [swappedBcd]
  | case3 d e rest ih =>
    rw [swappedBcd, List.length_cons, ih, List.length_cons, List.length_cons]
    omega

theorem halves (d e : Fin 15) :
    (UInt8.ofNat (16 * e.val + d.val) &&& 0x0f).toNat = d.val ∧
      (UInt8.ofNat (16 * e.val + d.val) >>> 4).toNat = e.val := by
  revert d e
  decide

theorem halves_filler (d : Fin 15) :
    (UInt8.ofNat (0xf0 + d.val) &&& 0x0f).toNat = d.val ∧
      UInt8.ofNat (0xf0 + d.val) &&& 0xf0 = 0xf0 := by
  revert d
  decide

theorem upper_ne_filler (d e : Fin 15) : UInt8.ofNat (16 * e.val + d.val) &&& 0xf0 ≠ 0xf0 := by
  revert d e
  decide

theorem take_swappedBcd (digits : List (Fin 15)) :
    ((swappedBcd digits).flatMap fun b : UInt8 => [(b &&& 0x0f).toNat, (b >>> 4).toNat]).take
      digits.length = digits.map Fin.val := by
  induction digits using swappedBcd.induct with
  | case1 => rfl
  | case2 d =>
    change [(UInt8.ofNat (0xf0 + d.val) &&& 0x0f).toNat] = [d.val]
    rw [(halves_filler d).1]
  | case3 d e rest ih =>
    obtain ⟨hlow, hhigh⟩ := halves d e
    rw [swappedBcd, List.flatMap_cons, hlow, hhigh]
    exact congrArg (fun t => d.val :: e.val :: t) ih

theorem getLast?_calledPartyBcd (international : Bool) (digits : List (Fin 15)) :
    ∃ last, (calledPartyBcd international digits).getLast? = some last ∧
      (last &&& 0xf0 = 0xf0 ↔ digits.length % 2 = 1) := by
  have hlast : ∀ b : UInt8, b &&& 0xf0 ≠ 0xf0 → ∃ last, (b :: swappedBcd digits).getLast? = some last ∧
      (last &&& 0xf0 = 0xf0 ↔ digits.length % 2 = 1) := by
    induction digits using swappedBcd.induct with
    | case1 => exact fun b hb => ⟨b, rfl, fun h => absurd h hb, fun h => absurd h (by simp)⟩
    | case2 d =>
      intro b hb
      exact ⟨_, rfl, fun _ => rfl, fun _ => (halves_filler d).2⟩
    | case3 d e rest ih =>
      intro b hb
      obtain ⟨last, hlast, hiff⟩ := ih _ (upper_ne_filler d e)
      refine ⟨last, ?_, ?_⟩
      · rw [swappedBcd, List.getLast?_cons_cons]
        exact hlast
      · rw [hiff, List.length_cons, List.length_cons]
        omega
  unfold calledPartyBcd
  split
  · exact hlast _ (by decide)
  · exact hlast _ (by decide)

namespace UsatBasedSms

theorem calculateTpDestAddrLengthByte_calledPartyBcd (international : Bool)
    (digits : List (Fin 15)) :
    calculateTpDestAddrLengthByte (calledPartyBcd international digits) =
      some (digits.length : Int) := by
  obtain ⟨last, hlast, hfiller⟩ := getLast?_calledPartyBcd international digits
  have hlength : (calledPartyBcd international digits).length = (digits.length + 1) / 2 + 1 := by
    rw [calledPartyBcd, List.length_cons, length_swappedBcd]
  unfold calculateTpDestAddrLengthByte
  rw [hlast]
  simp only [Option.bind_eq_bind, Option.bind_some, hlength, hfiller]
  split
  · exact congrArg some (by omega)
  · exact congrArg some (by omega)

theorem calculateIndexAfterTpDestAddr_octets (tpdu : SubmitTpdu) :
    calculateIndexAfterTpDestAddr tpdu.octets = some (4 + ((tpdu.digits + 1) / 2 : Nat) : Int) := by
  have hle := tpdu.digits_le
  have hsigned : (UInt8.ofNat tpdu.digits).toInt8.toInt = tpdu.digits := by
    have hall : ∀ n : Fin 21, (UInt8.ofNat n.val).toInt8.toInt = n.val := by decide
    exact hall ⟨tpdu.digits, Nat.lt_succ_of_le hle⟩
  change some (4 + ((UInt8.ofNat tpdu.digits).toInt8.toInt + 1).tdiv 2) = _
  rw [hsigned]
  refine congrArg some ?_
  rw [Int.tdiv_eq_ediv_of_nonneg (by omega)]
  omega

theorem write_of_split {bytes : Octets} (front middle back : Octets) (h : bytes = front ++ (middle ++ back))
    {off len : Int} (hoff : off = front.length) (hlen : len = middle.length) :
    write bytes off len = some middle := by
  unfold write
  rw [if_neg, hoff, hlen, Int.toNat_natCast, Int.toNat_natCast, h, List.drop_left, List.take_left]
  rw [h, List.length_append, List.length_append]
  omega

theorem replaceDestination_octets {encoders : BcdEncoders} {tpDestAddr : JavaString}
    {international : Bool} {digits : List (Fin 15)} (tpdu : SubmitTpdu)
    (hencode : encoders.networkPortionToCalledPartyBCD tpDestAddr =
      some (calledPartyBcd international digits)) :
    replaceDestination encoders tpdu.octets tpDestAddr =
      some (tpdu.firstOctet :: tpdu.messageRef ::
        (narrow digits.length :: calledPartyBcd international digits) ++ tpdu.tail) := by
  have hlength : tpdu.octets.length = 4 + (tpdu.digits + 1) / 2 + tpdu.tail.length := by
    unfold SubmitTpdu.octets SubmitTpdu.destination
    simp only [List.length_cons, List.length_append, tpdu.length_bcd]
    omega
  have hhead : write tpdu.octets 0 2 = some [tpdu.firstOctet, tpdu.messageRef] :=
    write_of_split [] [tpdu.firstOctet, tpdu.messageRef] (tpdu.destination ++ tpdu.tail) rfl rfl rfl
  have hrest : write tpdu.octets (4 + ((tpdu.digits + 1) / 2 : Nat))
      (tpdu.octets.length - (4 + ((tpdu.digits + 1) / 2 : Nat))) = some tpdu.tail := by
    refine write_of_split (tpdu.firstOctet :: tpdu.messageRef :: tpdu.destination) tpdu.tail []
      ?_ ?_ ?_
    · rw [List.append_nil]
      rfl
    · unfold SubmitTpdu.destination
      simp only [List.length_cons, tpdu.length_bcd]
      omega
    · rw [hlength]
      omega
  unfold replaceDestination
  rw [hencode]
  simp only [Option.bind_eq_bind, Option.bind_some]
  rw [calculateTpDestAddrLengthByte_calledPartyBcd, calculateIndexAfterTpDestAddr_octets]
  simp only [Option.bind_some]
  rw [hhead, hrest]
  rfl

end UsatBasedSms

/-! ### What is parsed behind the destination -/

namespace PduParser

theorem position_lt_iff (p : PduParser) : p.position < p.input.length ↔ p.rest ≠ [] := by
  rw [ne_eq, p.rest_eq_nil_iff]
  omega

theorem getElem?_position (p : PduParser) : p.input[p.position]? = p.rest.head? :=
  List.head?_drop.symm

theorem rest_advance (p : PduParser) (n : Nat) : (advance p n).rest = p.rest.drop n :=
  List.drop_drop.symm

theorem getOctet_of_rest {p : PduParser} {octet : UInt8} {rest : Octets}
    (h : p.rest = octet :: rest) :
    getOctet p = some ((octet.toNat : Int), advance p 1) ∧ (advance p 1).rest = rest ∧
      (advance p 1).Valid := by
  have hlt : p.position < p.input.length := by
    rw [position_lt_iff, h]
    exact List.cons_ne_nil _ _
  refine ⟨?_, ?_, hlt⟩
  · rw [getOctet, if_pos hlt, getElem?_position, h]
    rfl
  · rw [rest_advance, h]
    rfl

theorem getAddress_of_rest {p : PduParser} {length typeOctet : UInt8} {bcd rest : Octets}
    (h : p.rest = length :: typeOctet :: bcd ++ rest)
    (hlength : bcd.length = (length.toNat + 1) / 2) :
    ∃ p', getAddress p = some (some (length :: typeOctet :: bcd), p') ∧ p'.rest = rest ∧ p'.Valid := by
  have hrest := p.length_rest
  rw [h] at hrest
  simp only [List.length_append, List.length_cons] at hrest
  have htotal : p.position + (2 + (length.toNat + 1) / 2) ≤ p.input.length := by omega
  have hslice : (length :: typeOctet :: bcd).length = 2 + (length.toNat + 1) / 2 := by
    simp only [List.length_cons]
    omega
  refine ⟨advance p (2 + (length.toNat + 1) / 2), ?_, ?_, htotal⟩
  · rw [getAddress, if_pos (by omega), getElem?_position, h]
    change (if p.position + (2 + (length.toNat + 1) / 2) ≤ p.input.length then _ else _) = _
    rw [if_pos htotal, copyOfRange_rest p htotal, h, ← hslice, List.take_left]
    rfl
  · rw [rest_advance, h, ← hslice, List.drop_left]

theorem getOctet_agree : Agree Eq getOctet getOctet := by
  intro p p' hp hp' hrest
  rcases h : p.rest with _ | ⟨octet, rest⟩
  · have hend : ∀ q : PduParser, q.rest = [] → getOctet q = some (-1, q) := by
      intro q hq
      rw [getOctet, if_neg]
      rw [position_lt_iff, hq]
      exact fun h => h rfl
    exact ⟨-1, -1, p, p', hend p h, hend p' (hrest ▸ h), hp, hp', hrest, rfl⟩
  · obtain ⟨hrun, hnext, hvalid⟩ := getOctet_of_rest h
    obtain ⟨hrun', hnext', hvalid'⟩ := getOctet_of_rest (hrest ▸ h : p'.rest = octet :: rest)
    exact ⟨_, _, _, _, hrun, hrun', hvalid, hvalid', hnext.trans hnext'.symm, rfl⟩

theorem add_le_length_iff {p : PduParser} (hp : p.Valid) (n : Nat) :
    p.position + n ≤ p.input.length ↔ n ≤ p.rest.length := by
  rw [p.length_rest]
  unfold Cursor.Valid at hp
  omega

theorem rest_toEnd (p : PduParser) : (toEnd p).rest = [] :=
  (toEnd_cuts p).2.2.1

theorem parseValidityPeriod_agree (format : Int) :
    Agree Eq (parseValidityPeriod format) (parseValidityPeriod format) := by
  intro p p' hp hp' hrest
  unfold parseValidityPeriod
  have hiff := add_le_length_iff hp (validityPeriodLengthOctets format)
  have hiff' := add_le_length_iff hp' (validityPeriodLengthOctets format)
  rw [hrest] at hiff
  by_cases hlong : validityPeriodLengthOctets format ≤ p'.rest.length
  · rw [if_pos (hiff.mpr hlong), if_pos (hiff'.mpr hlong)]
    refine ⟨_, _, _, _, rfl, rfl, hiff.mpr hlong, hiff'.mpr hlong, ?_, rfl⟩
    rw [rest_advance, rest_advance, hrest]
  · rw [if_neg (hlong ∘ hiff.mp), if_neg (hlong ∘ hiff'.mp)]
    split
    · exact ⟨_, _, _, _, rfl, rfl, Nat.le_refl _, Nat.le_refl _,
        (rest_toEnd p).trans (rest_toEnd p').symm, rfl⟩
    · exact ⟨_, _, _, _, rfl, rfl, hp, hp', hrest, rfl⟩

theorem parseUserData_agree : Agree Eq parseUserData parseUserData := by
  have hrun : ∀ p : PduParser, p.Valid →
      ∃ p', parseUserData p = some (if p.rest = [] then none else some p.rest, p') ∧ p'.Valid ∧
        p'.rest = [] := by
    intro p hp
    unfold parseUserData
    by_cases hnil : p.rest = []
    · rw [if_neg (by rw [position_lt_iff, hnil]; exact fun h => h rfl), if_pos hnil]
      exact ⟨p, rfl, hp, hnil⟩
    · have hlt := (position_lt_iff p).mpr hnil
      have hcopy := copyOfRange_rest p (n := p.input.length - p.position) (by omega)
      rw [show p.position + (p.input.length - p.position) = p.input.length by omega,
        ← p.length_rest, List.take_length] at hcopy
      rw [if_pos hlt, if_neg hnil, hcopy]
      exact ⟨toEnd p, rfl, Nat.le_refl _, rest_toEnd p⟩
  intro p p' hp hp' hrest
  obtain ⟨q, hq, hvalid, hend⟩ := hrun p hp
  obtain ⟨q', hq', hvalid', hend'⟩ := hrun p' hp'
  exact ⟨_, _, q, q', hq, hq', hvalid, hvalid', hend.trans hend'.symm, by rw [hrest]⟩

/-- What is read of a header at the start of some octets. -/
def headerOf : Octets → Option Octets × UdhFields
  | [] => (none, .initial)
  | length :: rest =>
    if length.toNat ≤ rest.length then
      (some (length :: rest.take length.toNat),
        (decodeUdhData (length :: rest.take length.toNat) 1 length.toNat .initial).getD .initial)
    else (none, .initial)

/-- What is left behind a header. -/
def behindHeader : Octets → Octets
  | [] => []
  | length :: rest => rest.drop length.toNat

theorem parseUserDataHeader_of_valid {p : PduParser} (hp : p.Valid) :
    ∃ p', parseUserDataHeader .initial p = some (headerOf p.rest, p') ∧ p'.Valid ∧
      p'.rest = behindHeader p.rest := by
  unfold parseUserDataHeader
  rcases h : p.rest with _ | ⟨length, rest⟩
  · rw [if_neg (by rw [position_lt_iff, h]; exact fun h => h rfl)]
    exact ⟨p, rfl, hp, h⟩
  · have hlt : p.position < p.input.length := by
      rw [position_lt_iff, h]
      exact List.cons_ne_nil _ _
    have hiff := add_le_length_iff hp (length.toNat + 1)
    rw [if_pos hlt, getElem?_position, h]
    rw [h, List.length_cons, Nat.add_le_add_iff_right] at hiff
    simp only [List.head?_cons, Option.bind_eq_bind, Option.bind_some]
    dsimp only [headerOf, behindHeader]
    by_cases hlong : length.toNat ≤ rest.length
    · have htotal : (length :: rest.take length.toNat).length = length.toNat + 1 := by
        rw [List.length_cons, List.length_take_of_le hlong]
      obtain ⟨udh, hudh, -⟩ := decodeUdhData_eq htotal
      have hcopy := copyOfRange_rest p (hiff.mpr hlong)
      rw [h, List.take_succ_cons] at hcopy
      rw [if_pos (hiff.mpr hlong), if_pos hlong, hcopy]
      simp only [Option.bind_some]
      rw [hudh]
      refine ⟨advance p (length.toNat + 1), rfl, hiff.mpr hlong, ?_⟩
      rw [rest_advance, h]
      rfl
    · rw [if_neg (hlong ∘ hiff.mp), if_neg hlong]
      refine ⟨toEnd p, rfl, Nat.le_refl _, ?_⟩
      rw [rest_toEnd, List.drop_of_length_le (Nat.le_of_not_le hlong)]

theorem parseUserDataHeader_agree :
    Agree Eq (parseUserDataHeader .initial) (parseUserDataHeader .initial) := by
  intro p p' hp hp' hrest
  obtain ⟨q, hq, hvalid, hnext⟩ := parseUserDataHeader_of_valid hp
  obtain ⟨q', hq', hvalid', hnext'⟩ := parseUserDataHeader_of_valid hp'
  refine ⟨_, _, q, q', hq, hq', hvalid, hvalid', ?_, by rw [hrest]⟩
  rw [hnext, hnext', hrest]

end PduParser

namespace SmsTPdu

open PduParser

/-- The same message, of another PDU and to another destination. -/
def Redirected (pdu : Octets) (destination : Option Octets) (t t' : SmsTPdu) : Prop :=
  t' = { t with mPdu := some pdu, mDestinationAddress := destination }

theorem parseUserDataFields_agree {pdu : Octets} {destination : Option Octets} {t t' : SmsTPdu}
    (hudh : t.udh = .initial) (h : Redirected pdu destination t t') :
    Agree (Redirected pdu destination) t.parseUserDataFields t'.parseUserDataFields := by
  obtain rfl := h
  unfold parseUserDataFields
  refine getOctet_agree.bind fun length _ hlength => ?_
  obtain rfl := hlength
  refine Agree.ite (fun _ => ?_) fun _ => ?_
  · have hheader := parseUserDataHeader_agree
    rw [← hudh] at hheader
    refine hheader.bind fun header _ hheader => ?_
    obtain rfl := hheader
    refine parseUserData_agree.bind fun userData _ huserData => ?_
    obtain rfl := huserData
    exact Agree.pure rfl
  · refine parseUserData_agree.bind fun userData _ huserData => ?_
    obtain rfl := huserData
    exact Agree.pure rfl

/-- The part of `parseSmsSubmit` behind the destination. -/
def parseBehindDestination (t : SmsTPdu) : Reader UInt8 SmsTPdu := do
  let protocolIdentifier ← getOctet
  let dataCodingScheme ← getOctet
  parseValidityPeriod t.mValidityPeriodFormat
  parseUserDataFields
    { t with mProtocolIdentifier := protocolIdentifier, mDataCodingScheme := dataCodingScheme }

theorem parseBehindDestination_agree {pdu : Octets} {destination : Option Octets} {t t' : SmsTPdu}
    (hudh : t.udh = .initial) (h : Redirected pdu destination t t') :
    Agree (Redirected pdu destination) t.parseBehindDestination t'.parseBehindDestination := by
  obtain rfl := h
  unfold parseBehindDestination
  refine getOctet_agree.bind fun pid _ hpid => ?_
  obtain rfl := hpid
  refine getOctet_agree.bind fun dcs _ hdcs => ?_
  obtain rfl := hdcs
  refine (parseValidityPeriod_agree _).bind fun _ _ _ => ?_
  exact parseUserDataFields_agree
    (t := { t with mProtocolIdentifier := pid, mDataCodingScheme := dcs }) hudh rfl

theorem parseBehindDestination_kept {t : SmsTPdu} (hfresh : Fresh t) :
    Cuts t.parseBehindDestination fun t' (_ : Slices) _ => Kept t t' := by
  unfold parseBehindDestination
  refine (getOctet_cuts .protocolIdentifier).bind fun pid _ _ _ => ?_
  refine (getOctet_cuts .dataCodingScheme).bind fun dcs _ _ _ => ?_
  refine (parseValidityPeriod_cuts _).bind fun _ _ _ _ => ?_
  refine Cuts.mono (readsUserPart_parseUserDataFields
    (t := { t with mProtocolIdentifier := pid, mDataCodingScheme := dcs })
    ⟨hfresh.mUserDataHeader, hfresh.udh, hfresh.mUserData⟩) fun t' _ _ hread => ?_
  exact hread.2.1

/-- The message of a SMS-SUBMIT up to its destination. -/
def submitHead (t : SmsTPdu) (firstOctet messageRef : UInt8) (destination : Octets) : SmsTPdu :=
  { t with
    mMessageTypeIndicator := 1
    mRejectDuplicate := bits firstOctet.toNat 2 0x01
    mValidityPeriodFormat := bits firstOctet.toNat 3 0x03
    mStatusReportRequest := bits firstOctet.toNat 5 0x01
    mUserDataHeaderIndicator := bits firstOctet.toNat 6 0x01
    mReplyPath := bits firstOctet.toNat 7 0x01
    mMessageRef := messageRef.toNat
    mDestinationAddress := some destination }

theorem bits_of_submit {firstOctet : UInt8} (h : firstOctet &&& 0x03 = 1) :
    bits firstOctet.toNat 0 0x03 = 1 := by
  have hand : (firstOctet &&& 0x03).toNat = 1 := by
    rw [h]
    rfl
  rw [UInt8.toNat_and] at hand
  unfold bits
  rw [if_neg (by omega), Int.toNat_natCast, Nat.shiftRight_zero]
  exact congrArg Int.ofNat hand

theorem parseMessage_of_submit {t : SmsTPdu} (hdirection : t.mDirection = some .msToSc)
    (hmti : t.mMessageTypeIndicator = 1) (firstOctet : Int) :
    t.parseMessage firstOctet = t.parseSmsSubmit firstOctet := by
  unfold parseMessage
  rw [hdirection, hmti]
  dsimp only
  rw [if_neg (by decide), if_pos rfl]

theorem parsePdu_of_submit {t : SmsTPdu} (ht : t.mDirection = some .msToSc)
    {firstOctet length : UInt8} (hsubmit : firstOctet &&& 0x03 = 1) (messageRef typeOctet : UInt8)
    {bcd : Octets} (hlength : bcd.length = (length.toNat + 1) / 2) (tail : Octets) :
    ∃ p : PduParser, p.Valid ∧ p.rest = tail ∧
      t.parsePdu ⟨firstOctet :: messageRef :: (length :: typeOctet :: bcd) ++ tail, 0⟩ =
        (t.submitHead firstOctet messageRef (length :: typeOctet :: bcd)).parseBehindDestination
          p := by
  obtain ⟨hfirst, hrest, -⟩ := getOctet_of_rest
    (p := ⟨firstOctet :: messageRef :: (length :: typeOctet :: bcd) ++ tail, 0⟩) rfl
  obtain ⟨hsecond, hrest', -⟩ := getOctet_of_rest hrest
  obtain ⟨p, haddress, hrest'', hvalid⟩ := getAddress_of_rest hrest' hlength
  refine ⟨p, hvalid, hrest'', ?_⟩
  unfold parsePdu
  rw [run_bind hfirst, bits_of_submit hsubmit,
    parseMessage_of_submit (t := { t with mMessageTypeIndicator := 1 }) ht rfl]
  unfold parseSmsSubmit
  rw [run_bind hsecond, run_bind haddress]
  rfl

theorem parse_redirected (rpdu : SmsRPdu) {firstOctet messageRef length typeOctet : UInt8}
    {length' typeOctet' : UInt8} (hsubmit : firstOctet &&& 0x03 = 1) {bcd bcd' tail : Octets}
    (hlength : bcd.length = (length.toNat + 1) / 2)
    (hlength' : bcd'.length = (length'.toNat + 1) / 2) {pdu pdu' : Octets}
    (hpdu : pdu = firstOctet :: messageRef :: (length :: typeOctet :: bcd) ++ tail)
    (hpdu' : pdu' = firstOctet :: messageRef :: (length' :: typeOctet' :: bcd') ++ tail) :
    ∃ t p p', t.mMessageTypeIndicator = 1 ∧
      t.mDestinationAddress = some (length :: typeOctet :: bcd) ∧
      (new { rpdu with userData := some pdu } (some .msToSc)).parse = some (t, p) ∧
      (new { rpdu with userData := some pdu' } (some .msToSc)).parse =
        some ({ t with mPdu := some pdu',
                       mDestinationAddress := some (length' :: typeOctet' :: bcd') }, p') := by
  obtain ⟨p, hp, hrest, hparse⟩ := parsePdu_of_submit
    (t := new { rpdu with userData := some pdu } (some .msToSc)) rfl hsubmit messageRef typeOctet
    hlength tail
  obtain ⟨p', hp', hrest', hparse'⟩ := parsePdu_of_submit
    (t := new { rpdu with userData := some pdu' } (some .msToSc)) rfl hsubmit messageRef typeOctet'
    hlength' tail
  have hredirected : Redirected pdu' (some (length' :: typeOctet' :: bcd'))
      ((new { rpdu with userData := some pdu } (some .msToSc)).submitHead firstOctet messageRef
        (length :: typeOctet :: bcd))
      ((new { rpdu with userData := some pdu' } (some .msToSc)).submitHead firstOctet messageRef
        (length' :: typeOctet' :: bcd')) := rfl
  obtain ⟨t, t', q, q', hrun, hrun', -, -, -, rfl⟩ :=
    parseBehindDestination_agree rfl hredirected p p' hp hp' (hrest.trans hrest'.symm)
  obtain ⟨t', _, _, hrun'', -, -, -, hkept⟩ := parseBehindDestination_kept
    (t := (new { rpdu with userData := some pdu } (some .msToSc)).submitHead firstOctet messageRef
      (length :: typeOctet :: bcd)) ⟨rfl, rfl, rfl⟩ p hp
  obtain ⟨rfl, -⟩ := Prod.mk.inj (Option.some.inj (hrun''.symm.trans hrun))
  refine ⟨_, q, q', hkept.2.1, hkept.2.2.2.1, ?_, ?_⟩
  · rw [← hrun, ← hparse, hpdu]
    rfl
  · rw [← hrun', ← hparse', hpdu']
    rfl

end SmsTPdu

/-! ### The answer of the USIM -/

/-- The answer replaces the destination by an address with the given digits. -/
structure Replacement (encoders : BcdEncoders) (cmdRes : MoSmsControlCommandResponse)
    (digits : List (Fin 15)) : Prop where
  result : cmdRes.result = .allowedWithModification
  destination : ∃ tpDestAddr international, cmdRes.tpDestinationAddress = some tpDestAddr ∧
    tpDestAddr ≠ [] ∧ encoders.networkPortionToCalledPartyBCD tpDestAddr =
      some (calledPartyBcd international digits)

/-- A TPDU is as another one, but for the digits of its destination. -/
structure Redirects (tpdu : SubmitTpdu) (digits : List (Fin 15)) (rebuilt : Octets) : Prop where
  address : ∃ length destination, length.toNat = digits.length ∧
    addressDigits (length :: destination) = digits.map Fin.val ∧
    rebuilt = tpdu.firstOctet :: tpdu.messageRef :: (length :: destination) ++ tpdu.tail ∧
    ∀ rpdu : SmsRPdu, ∃ t p p', t.mMessageTypeIndicator = 1 ∧
      t.mDestinationAddress = some tpdu.destination ∧
      (SmsTPdu.new { rpdu with userData := some tpdu.octets } (some .msToSc)).parse = some (t, p) ∧
      (SmsTPdu.new { rpdu with userData := some rebuilt } (some .msToSc)).parse =
        some ({ t with mPdu := some rebuilt,
                       mDestinationAddress := some (length :: destination) }, p')

namespace UsatBasedSms

/-- A message of a command that is pending is enqueued with a TPDU that differs from the one before in
the digits of the destination. -/
theorem onCommandResponse_redirects {encoders : BcdEncoders}
    {mMoSmsCCmd : Option MoSmsControlCommand}
    {mUsatCmdMessageMap : MoSmsControlCommand → Option TpduParam}
    {cmdRes : MoSmsControlCommandResponse} {param : TpduParam} (tpdu : SubmitTpdu)
    {digits : List (Fin 15)} (hpending : mMoSmsCCmd = some cmdRes.command)
    (hmessage : mUsatCmdMessageMap cmdRes.command = some param)
    (htpdu : param.tpdu = some tpdu.octets) (hreplacement : Replacement encoders cmdRes digits)
    (hdigits : digits.length ≤ 255) :
    ∃ param' rebuilt,
      onCommandResponse encoders mMoSmsCCmd mUsatCmdMessageMap cmdRes = .enqueued param' ∧
      param'.token = param.token ∧ param'.tpdu = some rebuilt ∧ Redirects tpdu digits rebuilt := by
  obtain ⟨hresult, tpDestAddr, international, haddress, hne, hencode⟩ := hreplacement
  have hreplace := replaceDestination_octets tpdu hencode
  have hnarrow : (narrow digits.length).toNat = digits.length := by
    have h := narrow_toNat digits.length
    omega
  have hlength : (swappedBcd digits).length = ((narrow digits.length).toNat + 1) / 2 := by
    rw [hnarrow, length_swappedBcd]
  have hlength' : tpdu.bcd.length = ((UInt8.ofNat tpdu.digits).toNat + 1) / 2 := by
    have hle := tpdu.digits_le
    rw [tpdu.length_bcd, UInt8.toNat_ofNat', Nat.mod_eq_of_lt (by omega)]
  obtain ⟨param', hmodified, htoken, htpdu'⟩ : ∃ param', modified encoders cmdRes param = some param' ∧
      param'.token = param.token ∧ param'.tpdu = some (tpdu.firstOctet :: tpdu.messageRef ::
        (narrow digits.length :: calledPartyBcd international digits) ++ tpdu.tail) := by
    unfold modified
    rw [haddress]
    rcases tpDestAddr with _ | ⟨c, tpDestAddr⟩
    · exact absurd rfl hne
    · dsimp only
      rw [htpdu]
      simp only [Option.bind_eq_bind, Option.bind_some]
      rw [hreplace]
      exact ⟨_, rfl, rfl, rfl⟩
  refine ⟨param', _, ?_, htoken, htpdu', ?_⟩
  · unfold onCommandResponse
    rw [if_neg (fun h => h hpending), hmessage, hresult]
    dsimp only
    rw [hmodified]
    rfl
  · refine ⟨narrow digits.length, calledPartyBcd international digits, hnarrow, ?_, rfl,
      fun rpdu => ?_⟩
    · rw [calledPartyBcd, addressDigits, hnarrow]
      exact take_swappedBcd digits
    · exact SmsTPdu.parse_redirected rpdu tpdu.isSubmit hlength' hlength rfl rfl

/-- A message to three digits, without user data. -/
def shortSubmit : SubmitTpdu where
  firstOctet := 0x01
  messageRef := 0x07
  digits := 3
  typeOctet := 0x81
  bcd := [0x21, 0xf3]
  tail := [0x00, 0x00, 0x00]
  isSubmit := rfl
  digits_le := Nat.le_of_ble_eq_true rfl
  length_bcd := rfl

def shortParam : TpduParam where
  token := 1
  tpdu := some shortSubmit.octets
  smsc := none
  destinationAddress := some "123".toList
  rpMessageType := .rpData
  isRetry := false

def controlCommand : MoSmsControlCommand :=
  { cid := 1, rpDestinationAddress := none, tpDestinationAddress := some "123".toList }

/-- An answer that replaces the destination. -/
def replacing (tpDestAddr : JavaString) : MoSmsControlCommandResponse where
  command := controlCommand
  result := .allowedWithModification
  rpDestinationAddress := none
  tpDestinationAddress := some tpDestAddr

/-- Encoders for which every address has the same digits. -/
def encodersFor (digits : List (Fin 15)) : BcdEncoders where
  networkPortionToCalledPartyBCD _ := some (calledPartyBcd false digits)
  networkPortionToCalledPartyBCDWithLength _ := none

theorem replacement_replacing {tpDestAddr : JavaString} (hne : tpDestAddr ≠ [])
    (digits : List (Fin 15)) : Replacement (encodersFor digits) (replacing tpDestAddr) digits :=
  ⟨rfl, tpDestAddr, false, rfl, hne, rfl⟩

theorem onCommandResponse_redirects_short :
    ∃ param' rebuilt,
      onCommandResponse (encodersFor [4, 5]) (some controlCommand) (fun _ => some shortParam)
        (replacing "45".toList) = .enqueued param' ∧
      param'.token = shortParam.token ∧ param'.tpdu = some rebuilt ∧
      Redirects shortSubmit [4, 5] rebuilt :=
  onCommandResponse_redirects shortSubmit rfl rfl rfl (replacement_replacing (by decide) [4, 5])
    (by decide)

/-- An address of 256 digits has no length octet. -/
theorem not_onCommandResponse_redirects :
    ¬ ∀ (encoders : BcdEncoders) (mMoSmsCCmd : Option MoSmsControlCommand)
      (mUsatCmdMessageMap : MoSmsControlCommand → Option TpduParam)
      (cmdRes : MoSmsControlCommandResponse) (param : TpduParam) (tpdu : SubmitTpdu)
      (digits : List (Fin 15)), mMoSmsCCmd = some cmdRes.command →
      mUsatCmdMessageMap cmdRes.command = some param → param.tpdu = some tpdu.octets →
      Replacement encoders cmdRes digits → ∃ param' rebuilt,
        onCommandResponse encoders mMoSmsCCmd mUsatCmdMessageMap cmdRes = .enqueued param' ∧
        param'.token = param.token ∧ param'.tpdu = some rebuilt ∧ Redirects tpdu digits rebuilt := by
  intro h
  obtain ⟨param', rebuilt, -, -, -, hredirects⟩ := h (encodersFor (List.replicate 256 4))
    (some controlCommand) (fun _ => some shortParam) (replacing (List.replicate 256 '4')) shortParam
    shortSubmit (List.replicate 256 4) rfl rfl rfl
    (replacement_replacing (List.cons_ne_nil _ (List.replicate 255 '4')) _)
  obtain ⟨length, destination, hlength, -⟩ := hredirects.address
  have hlt := length.toNat_lt
  rw [List.length_replicate] at hlength
  omega

end UsatBasedSms

end ImsStack.Sms
