import ImsStack.Sms.SmsRPdu
import Mathlib.Tactic.SplitIfs

/-!
What the encoder writes is what the parser reads, and the user data that the parser
reads is a part of the message, as long as the lengths fit.
-/

namespace ImsStack.Sms.SmsRPdu

open Platform.Bytes

/-- A sent message as the peer would have sent it: with the direction bit of the message
type indicator set. -/
def fromNetwork : Octets → Octets
  | [] => []
  | mti :: rest => (mti ||| 1) :: rest

/-- The length octets of a sent message, by their index, and the lengths of the fields
they stand before. -/
def announcedFields (messageType : RpMessageType) (destinationAddress : Octets)
    (userData : Option Octets) : List (Nat × Nat) :=
  let userDataAt (index : Nat) : List (Nat × Nat) :=
    userData.toList.map fun ud => (index, ud.length)
  match messageType with
  | .rpData =>
    [(2, 0), (3, destinationAddress.length - 1)] ++ userDataAt (3 + destinationAddress.length)
  | .rpAck => userDataAt 3
  | .rpError => (2, 1) :: userDataAt 5
  | .rpSmma => []

/-- The destination address of a message in octets; its first is its length. -/
def destinationOctets (destAddr : Option (List Char)) : Octets :=
  ((destAddr.bind hexStringToBytes).getD [])

/-- A sent message announces the lengths of its fields and reads back as what it was made
from. -/
structure FaithfullyEncoded (bcd : CalledPartyBcd) (rp : SmsRPdu) (pdu : Octets) : Prop where
  lengthOctets : ∀ field ∈
    announcedFields rp.messageType (destinationOctets rp.destAddr) rp.userData,
    (pdu[field.1]?).map UInt8.toNat = some field.2
  readBack : ∃ read, parsePdu bcd (fromNetwork pdu) = some read ∧
    read.messageType = rp.messageType ∧ read.messageRef = rp.messageRef % 256 ∧
    (rp.messageType = .rpError → read.cause = rp.cause) ∧ read.userData = rp.userData

/-- The user data is no longer than the parser takes, the address begins with its own
length and the cause is an octet. -/
structure LengthsFit (rp : SmsRPdu) : Prop where
  userData : ∀ ud ∈ rp.userData, ud.length ≤ maxTpduLength
  destAddr : rp.messageType = .rpData →
    (destinationOctets rp.destAddr).head?.map UInt8.toNat =
      some ((destinationOctets rp.destAddr).length - 1)
  cause : rp.messageType = .rpError → 0 ≤ rp.cause ∧ rp.cause < 256

/-- The index of the octet that announces the user data. -/
def userDataLengthIndex (pdu : Octets) : Option Nat := do
  let mti ← pdu[0]?
  match mti.toNat % 8 with
  | 1 =>
    let origLength ← pdu[2]?
    let destLength ← pdu[3 + origLength.toNat]?
    some (4 + origLength.toNat + destLength.toNat)
  | 3 => some 3
  | 5 =>
    let causeLength ← pdu[2]?
    some (5 + (causeLength.toNat - 1))
  | _ => none

/-- The user data is the octets of the message that its length octet announces. -/
def ExactUserData (pdu userData : Octets) : Prop :=
  ∃ index length, userDataLengthIndex pdu = some index ∧ pdu[index]? = some length ∧
    userData.length = length.toNat ∧ userData.length ≤ maxTpduLength ∧
    userData = (pdu.drop (index + 1)).take length.toNat

/-- The message goes on for as many octets as announced. -/
def NotTruncated (pdu : Octets) : Prop :=
  ∃ index length, userDataLengthIndex pdu = some index ∧ pdu[index]? = some length ∧
    index + 1 + length.toNat ≤ pdu.length

/-! ### The parser -/

theorem getByte_eq_some {pdu : Octets} {cur value next : Nat} :
    getByte pdu cur = some (value, next) ↔
      ∃ octet, pdu[cur]? = some octet ∧ value = octet.toNat ∧ next = cur + 1 := by
  simp only [getByte]
  cases hoctet : pdu[cur]? with
  | none => simp
  | some octet =>
      simp only [Option.some.injEq, Prod.mk.injEq, exists_eq_left']
      constructor
      · rintro ⟨rfl, rfl⟩
        exact ⟨rfl, rfl⟩
      · rintro ⟨rfl, rfl⟩
        exact ⟨rfl, rfl⟩

theorem getAddress_eq_some {bcd : CalledPartyBcd} {pdu : Octets} {cur next : Nat}
    {address : Option (List Char)} (haddress : getAddress bcd pdu cur = some (address, next)) :
    ∃ octet, pdu[cur]? = some octet ∧ next = cur + 1 + octet.toNat := by
  simp only [getAddress, Option.bind_eq_bind, Option.bind_eq_some_iff, Option.some.injEq,
    Prod.mk.injEq, Prod.exists, getByte_eq_some] at haddress
  obtain ⟨value, start, ⟨octet, hoctet, rfl, rfl⟩, -, rfl⟩ := haddress
  exact ⟨octet, hoctet, rfl⟩

theorem getUserDataForRpData_eq_some {pdu userData : Octets} {cur : Nat}
    (hread : getUserDataForRpData pdu cur = some (some userData)) :
    ∃ length, pdu[cur]? = some length ∧ length.toNat ≤ maxTpduLength ∧
      copyOfRange pdu (cur + 1) (cur + 1 + length.toNat) = some userData := by
  simp only [getUserDataForRpData, Option.bind_eq_bind, Option.bind_eq_some_iff, Prod.exists,
    getByte_eq_some] at hread
  obtain ⟨udlen, start, ⟨length, hlength, rfl, rfl⟩, hread⟩ := hread
  split at hread
  · cases hread
  · rename_i hle
    simp only [Option.map_eq_some_iff, Option.some.injEq, exists_eq_right] at hread
    exact ⟨length, hlength, Nat.le_of_not_lt hle, hread⟩

theorem getUserDataForRpAckOrRpError_eq_some {pdu userData : Octets} {cur : Nat}
    (hread : getUserDataForRpAckOrRpError pdu cur = some (some userData)) :
    getUserDataForRpData pdu (cur + 1) = some (some userData) := by
  simp only [getUserDataForRpAckOrRpError, Option.bind_eq_bind, Option.bind_eq_some_iff,
    Prod.exists, getByte_eq_some] at hread
  obtain ⟨identifier, start, ⟨octet, -, rfl, rfl⟩, hread⟩ := hread
  split at hread
  · cases hread
  · exact hread

theorem skipBytes_eq_some {pdu : Octets} {cur next : Nat} (n : Nat)
    (hskip : skipBytes pdu cur n = some next) : next = cur + n := by
  induction n generalizing cur with
  | zero =>
      cases hskip
      rfl
  | succ n ih =>
      simp only [skipBytes, Option.bind_eq_bind, Option.bind_eq_some_iff, Prod.exists,
        getByte_eq_some] at hskip
      obtain ⟨value, start, ⟨octet, -, -, rfl⟩, hskip⟩ := hskip
      rw [ih hskip]
      omega

theorem parseRpData_userData {bcd : CalledPartyBcd} {pdu userData : Octets}
    (hdata : (parseRpData bcd pdu 1).userData = some userData) :
    ∃ origLength destLength, pdu[2]? = some origLength ∧
      pdu[3 + origLength.toNat]? = some destLength ∧
      getUserDataForRpData pdu (4 + origLength.toNat + destLength.toNat) =
        some (some userData) := by
  simp only [parseRpData] at hdata
  split at hdata
  · cases hdata
  · rename_i messageRef cur href
    obtain ⟨octet, -, -, rfl⟩ := getByte_eq_some.mp href
    split at hdata
    · cases hdata
    · rename_i origAddr cur horig
      obtain ⟨origLength, horigLength, rfl⟩ := getAddress_eq_some horig
      split at hdata
      · cases hdata
      · rename_i destAddr cur hdest
        obtain ⟨destLength, hdestLength, rfl⟩ := getAddress_eq_some hdest
        split at hdata
        · cases hdata
        · rename_i read hread
          simp only at hdata
          subst hdata
          refine ⟨origLength, destLength, horigLength, hdestLength, ?_⟩
          rw [← hread]
          congr 1
          omega

theorem parseRpAck_userData {pdu userData : Octets}
    (hdata : (parseRpAck pdu 1).userData = some userData) :
    getUserDataForRpData pdu 3 = some (some userData) := by
  simp only [parseRpAck] at hdata
  split at hdata
  · cases hdata
  · rename_i messageRef cur href
    obtain ⟨octet, -, -, rfl⟩ := getByte_eq_some.mp href
    split at hdata
    · cases hdata
    · split at hdata
      · cases hdata
      · rename_i read hread
        simp only at hdata
        subst hdata
        exact getUserDataForRpAckOrRpError_eq_some hread

theorem parseRpError_userData {pdu userData : Octets}
    (hdata : (parseRpError pdu 1).userData = some userData) :
    ∃ causeLength, pdu[2]? = some causeLength ∧
      getUserDataForRpData pdu (5 + (causeLength.toNat - 1)) = some (some userData) := by
  simp only [parseRpError] at hdata
  split at hdata
  · cases hdata
  · rename_i messageRef cur href
    obtain ⟨octet, -, -, rfl⟩ := getByte_eq_some.mp href
    split at hdata
    · cases hdata
    · rename_i causeLen cur hlen
      obtain ⟨causeLength, hcauseLength, rfl, rfl⟩ := getByte_eq_some.mp hlen
      split at hdata
      · cases hdata
      · rename_i cause cur hcause
        obtain ⟨octet, -, -, rfl⟩ := getByte_eq_some.mp hcause
        split at hdata
        · cases hdata
        · split at hdata
          · cases hdata
          · rename_i cur hskip
            split at hdata
            · cases hdata
            · rename_i read hread
              simp only at hdata
              subst hdata
              refine ⟨causeLength, hcauseLength, ?_⟩
              rw [← getUserDataForRpAckOrRpError_eq_some hread, skipBytes_eq_some _ hskip]
              congr 1
              omega

theorem parsePdu_userData {bcd : CalledPartyBcd} {pdu userData : Octets} {rp : SmsRPdu}
    (hparse : parsePdu bcd pdu = some rp) (hdata : rp.userData = some userData) :
    ∃ index, userDataLengthIndex pdu = some index ∧
      getUserDataForRpData pdu index = some (some userData) := by
  simp only [parsePdu, Option.bind_eq_bind, Option.bind_eq_some_iff, Prod.exists,
    getByte_eq_some] at hparse
  obtain ⟨firstByte, cur, ⟨mti, hmti, rfl, rfl⟩, hparse⟩ := hparse
  simp only [userDataLengthIndex, hmti, Option.bind_eq_bind, Option.bind_some]
  split at hparse
  · obtain rfl := Option.some.inj hparse
    obtain ⟨origLength, destLength, horig, hdest, hread⟩ := parseRpData_userData hdata
    exact ⟨_, by simp [*], hread⟩
  · obtain rfl := Option.some.inj hparse
    exact ⟨3, by simp [*], parseRpAck_userData hdata⟩
  · obtain rfl := Option.some.inj hparse
    obtain ⟨causeLength, hcause, hread⟩ := parseRpError_userData hdata
    exact ⟨_, by simp [*], hread⟩
  · cases hparse

theorem userData_length_le {bcd : CalledPartyBcd} {pdu userData : Octets} {rp : SmsRPdu}
    (hparse : parsePdu bcd pdu = some rp) (hdata : rp.userData = some userData) :
    userData.length ≤ maxTpduLength := by
  obtain ⟨index, -, hread⟩ := parsePdu_userData hparse hdata
  obtain ⟨length, -, hle, hcopy⟩ := getUserDataForRpData_eq_some hread
  rw [length_copyOfRange hcopy]
  exact hle

/-- The user data is a part of the message unless the message is too short for it. -/
theorem exactUserData_iff {bcd : CalledPartyBcd} {pdu userData : Octets} {rp : SmsRPdu}
    (hparse : parsePdu bcd pdu = some rp) (hdata : rp.userData = some userData) :
    ExactUserData pdu userData ↔ NotTruncated pdu := by
  obtain ⟨index, hindex, hread⟩ := parsePdu_userData hparse hdata
  obtain ⟨length, hlength, hle, hcopy⟩ := getUserDataForRpData_eq_some hread
  have hcopied := length_copyOfRange hcopy
  constructor
  · rintro ⟨index', length', hindex', hlength', -, -, htake⟩
    obtain rfl := Option.some.inj (hindex.symm.trans hindex')
    obtain rfl := Option.some.inj (hlength.symm.trans hlength')
    exact ⟨index, length, hindex, hlength, (copyOfRange_eq_take_iff hcopy).mp htake⟩
  · rintro ⟨index', length', hindex', hlength', hlong⟩
    obtain rfl := Option.some.inj (hindex.symm.trans hindex')
    obtain rfl := Option.some.inj (hlength.symm.trans hlength')
    exact ⟨index, length, hindex, hlength, hcopied, hcopied ▸ hle,
      (copyOfRange_eq_take_iff hcopy).mpr hlong⟩

theorem parseRpError_cause (pdu : Octets) (cur : Nat) :
    0 ≤ (parseRpError pdu cur).cause ∧ (parseRpError pdu cur).cause < 256 := by
  have hzero : (0 : Int) ≤ 0 ∧ (0 : Int) < 256 := by decide
  simp only [parseRpError]
  split
  · exact hzero
  · split
    · exact hzero
    · split
      · exact hzero
      · rename_i cause cur hcause
        obtain ⟨octet, -, rfl, -⟩ := getByte_eq_some.mp hcause
        have hlt := octet.toNat_lt
        have hoctet : (0 : Int) ≤ octet.toNat ∧ (octet.toNat : Int) < 256 := by omega
        split_ifs
        · exact hoctet
        · split
          · exact hoctet
          · split <;> exact hoctet

theorem messageType_parseRpData (bcd : CalledPartyBcd) (pdu : Octets) (cur : Nat) :
    (parseRpData bcd pdu cur).messageType = .rpData := by
  simp only [parseRpData]
  repeat' first | rfl | split

theorem messageType_parseRpAck (pdu : Octets) (cur : Nat) :
    (parseRpAck pdu cur).messageType = .rpAck := by
  simp only [parseRpAck]
  repeat' first | rfl | split

theorem messageType_parseRpError (pdu : Octets) (cur : Nat) :
    (parseRpError pdu cur).messageType = .rpError := by
  simp only [parseRpError]
  repeat' first | rfl | split

theorem parsePdu_cause {bcd : CalledPartyBcd} {pdu : Octets} {rp : SmsRPdu}
    (hparse : parsePdu bcd pdu = some rp) (htype : rp.messageType = .rpError) :
    0 ≤ rp.cause ∧ rp.cause < 256 := by
  simp only [parsePdu, Option.bind_eq_bind, Option.bind_eq_some_iff, Prod.exists] at hparse
  obtain ⟨firstByte, cur, -, hparse⟩ := hparse
  split at hparse
  · obtain rfl := Option.some.inj hparse
    rw [messageType_parseRpData] at htype
    cases htype
  · obtain rfl := Option.some.inj hparse
    rw [messageType_parseRpAck] at htype
    cases htype
  · obtain rfl := Option.some.inj hparse
    exact parseRpError_cause _ _
  · cases hparse

/-! ### The encoder -/

theorem getUserDataForRpData_append (header userData : Octets)
    (hle : userData.length ≤ maxTpduLength) :
    getUserDataForRpData (header ++ narrow userData.length :: userData) header.length =
      some (some userData) := by
  have hnarrow : (narrow userData.length).toNat = userData.length :=
    (narrow_length_iff userData).mpr (Nat.lt_of_le_of_lt hle (by decide))
  have hcopy := copyOfRange_append (header ++ [narrow userData.length]) userData
  rw [List.append_assoc, List.length_append, List.length_singleton,
    List.singleton_append] at hcopy
  have hbyte : getByte (header ++ narrow userData.length :: userData) header.length =
      some (userData.length, header.length + 1) := by
    refine getByte_eq_some.mpr ⟨narrow userData.length, ?_, hnarrow.symm, rfl⟩
    rw [List.getElem?_append_right (Nat.le_refl _), Nat.sub_self, List.getElem?_cons_zero]
  simp only [getUserDataForRpData, hbyte, Option.bind_eq_bind, Option.bind_some,
    if_neg (Nat.not_lt.mpr hle), hcopy, Option.map_some]

theorem getUserDataForRpAckOrRpError_append (header userData : Octets)
    (hle : userData.length ≤ maxTpduLength) :
    getUserDataForRpAckOrRpError (header ++ optionalUserData (some userData)) header.length =
      some (some userData) := by
  have hread := getUserDataForRpData_append (header ++ [rpUdIei]) userData hle
  rw [List.append_assoc, List.length_append, List.length_singleton,
    List.singleton_append] at hread
  have hbyte : getByte (header ++ optionalUserData (some userData)) header.length =
      some (rpUdIei.toNat, header.length + 1) := by
    refine getByte_eq_some.mpr ⟨rpUdIei, ?_, rfl, rfl⟩
    rw [List.getElem?_append_right (Nat.le_refl _), Nat.sub_self]
    rfl
  simp only [getUserDataForRpAckOrRpError, hbyte, Option.bind_eq_bind, Option.bind_some,
    ne_eq, not_true_eq_false, ↓reduceIte]
  exact hread

theorem parseRpData_encoded (bcd : CalledPartyBcd) (mti ref destLength : UInt8)
    (digits userData : Octets) (hdest : destLength.toNat = digits.length)
    (hle : userData.length ≤ maxTpduLength) :
    let pdu := mti :: ref :: 0x00 :: (destLength :: digits ++
      narrow userData.length :: userData)
    (parseRpData bcd pdu 1).messageRef = ref.toNat ∧
      (parseRpData bcd pdu 1).userData = some userData := by
  intro pdu
  have href : getByte pdu 1 = some (ref.toNat, 2) := rfl
  have horig : getAddress bcd pdu 2 = some (none, 3) := rfl
  have hdestByte : getByte pdu 3 = some (digits.length, 4) := by
    rw [← hdest]
    rfl
  have hread := getUserDataForRpData_append
    (mti :: ref :: 0x00 :: destLength :: digits) userData hle
  have hlength : (mti :: ref :: 0x00 :: destLength :: digits).length = 4 + digits.length := by
    simp only [List.length_cons]
    omega
  rw [hlength] at hread
  change getUserDataForRpData pdu (4 + digits.length) = _ at hread
  have haddress : ∃ address, getAddress bcd pdu 3 = some (address, 4 + digits.length) :=
    ⟨_, by rw [getAddress, hdestByte]; rfl⟩
  obtain ⟨address, haddress⟩ := haddress
  simp [parseRpData, href, horig, haddress, hread]

theorem parseRpAck_encoded (mti ref : UInt8) (userData : Option Octets)
    (hle : ∀ ud ∈ userData, ud.length ≤ maxTpduLength) :
    let pdu := mti :: ref :: optionalUserData userData
    (parseRpAck pdu 1).messageRef = ref.toNat ∧ (parseRpAck pdu 1).userData = userData := by
  intro pdu
  cases userData with
  | none => exact ⟨rfl, rfl⟩
  | some ud =>
      have href : getByte pdu 1 = some (ref.toNat, 2) := rfl
      have hread : getUserDataForRpAckOrRpError pdu 2 = some (some ud) :=
        getUserDataForRpAckOrRpError_append [mti, ref] ud (hle ud rfl)
      have hlong : ¬ pdu.length ≤ 2 := by
        simp only [pdu, optionalUserData, List.length_cons]
        omega
      simp [parseRpAck, href, hlong, hread]

theorem parseRpError_encoded (mti ref cause : UInt8) (userData : Option Octets)
    (hle : ∀ ud ∈ userData, ud.length ≤ maxTpduLength) :
    let pdu := mti :: ref :: rpCauseLengthIndicator :: cause :: optionalUserData userData
    (parseRpError pdu 1).messageRef = ref.toNat ∧ (parseRpError pdu 1).cause = cause.toNat ∧
      (parseRpError pdu 1).userData = userData := by
  intro pdu
  cases userData with
  | none => exact ⟨rfl, rfl, rfl⟩
  | some ud =>
      have href : getByte pdu 1 = some (ref.toNat, 2) := rfl
      have hcauseLength : getByte pdu 2 = some (1, 3) := rfl
      have hcause : getByte pdu 3 = some (cause.toNat, 4) := rfl
      have hread : getUserDataForRpAckOrRpError pdu 4 = some (some ud) :=
        getUserDataForRpAckOrRpError_append [mti, ref, rpCauseLengthIndicator, cause] ud
          (hle ud rfl)
      have hlong : ¬ pdu.length ≤ 4 := by
        simp only [pdu, optionalUserData, List.length_cons]
        omega
      simp [parseRpError, href, hcauseLength, hcause, hlong, skipBytes, hread]

theorem getRpDataPdu_eq_some {messageRef : Int} {destAddr : Option (List Char)}
    {userData : Option Octets} {pdu : Octets}
    (hpdu : getRpDataPdu messageRef destAddr userData = some (some pdu)) :
    ∃ destLength digits ud, destinationOctets destAddr = destLength :: digits ∧
      userData = some ud ∧
      pdu = moRpDataMti :: narrow messageRef :: 0x00 ::
        (destLength :: digits ++ narrow ud.length :: ud) := by
  cases destAddr with
  | none => cases hpdu
  | some hex =>
      simp only [getRpDataPdu, Option.bind_eq_bind, Option.bind_eq_some_iff] at hpdu
      obtain ⟨destinationAddress, hdest, hpdu⟩ := hpdu
      cases destinationAddress with
      | nil =>
          rw [if_pos rfl] at hpdu
          cases hpdu
      | cons destLength digits =>
          rw [if_neg (List.cons_ne_nil _ _)] at hpdu
          simp only [Option.bind_eq_some_iff, Option.some.injEq] at hpdu
          obtain ⟨ud, hud, hpdu⟩ := hpdu
          exact ⟨destLength, digits, ud, by simp [destinationOctets, hdest], hud, hpdu.symm⟩

theorem LengthsFit.of_faithfullyEncoded {bcd : CalledPartyBcd} {rp : SmsRPdu} {pdu : Octets}
    (hdest : rp.messageType = .rpData → ∃ tail, pdu.drop 3 = destinationOctets rp.destAddr ++ tail)
    (hnonempty : rp.messageType = .rpData → destinationOctets rp.destAddr ≠ [])
    (hfaithful : FaithfullyEncoded bcd rp pdu) : LengthsFit rp := by
  obtain ⟨read, hparse, htype, -, hcause, hdata⟩ := hfaithful.readBack
  constructor
  · intro ud hud
    exact userData_length_le hparse (hdata.trans hud)
  · intro hrpData
    obtain ⟨tail, htail⟩ := hdest hrpData
    have hoctet := hfaithful.lengthOctets (3, (destinationOctets rp.destAddr).length - 1)
      (by simp [announcedFields, hrpData])
    have hhead : pdu[3]? = (destinationOctets rp.destAddr).head? := by
      have hget : (pdu.drop 3)[0]? = pdu[3]? := List.getElem?_drop
      rw [← hget, htail, List.getElem?_append_left
        (List.length_pos_iff.mpr (hnonempty hrpData)), List.head?_eq_getElem?]
    rw [← hhead]
    exact hoctet
  · intro hrpError
    rw [← hcause hrpError]
    exact parsePdu_cause hparse (htype.trans hrpError)

theorem faithfullyEncoded_iff {bcd : CalledPartyBcd} {messageRef cause : Int}
    {messageType : RpMessageType} {destAddr : Option (List Char)} {userData : Option Octets}
    {isRetry : Bool} {rp : SmsRPdu} {pdu : Octets} (htype : messageType ≠ .rpSmma)
    (hnew : new messageRef messageType destAddr cause userData isRetry = some rp)
    (hpdu : rp.rpdu = some pdu) : FaithfullyEncoded bcd rp pdu ↔ LengthsFit rp := by
  simp only [new, Option.bind_eq_bind, Option.bind_eq_some_iff, Option.some.injEq] at hnew
  obtain ⟨rpdu, hencode, rfl⟩ := hnew
  simp only at hpdu
  subst hpdu
  have hreference : ((narrow messageRef).toNat : Int) = messageRef % 256 :=
    narrow_toNat messageRef
  have hnarrow : ∀ ud : Octets, ud.length ≤ maxTpduLength →
      (narrow ud.length).toNat = ud.length :=
    fun ud hle => (narrow_length_iff ud).mpr (Nat.lt_of_le_of_lt hle (by decide))
  cases messageType with
  | rpSmma => exact absurd rfl htype
  | rpData =>
      obtain ⟨destLength, digits, ud, hdest, rfl, rfl⟩ := getRpDataPdu_eq_some hencode
      constructor
      · refine LengthsFit.of_faithfullyEncoded (fun _ => ⟨narrow ud.length :: ud, ?_⟩)
          (fun _ => hdest ▸ List.cons_ne_nil _ _)
        rw [hdest]
        rfl
      · intro hfit
        have hle := hfit.userData ud rfl
        have hlength : destLength.toNat = digits.length := by
          simpa [hdest] using hfit.destAddr rfl
        obtain ⟨href, hdata⟩ := parseRpData_encoded bcd (moRpDataMti ||| 1)
          (narrow messageRef) destLength digits ud hlength hle
        constructor
        · intro field hfield
          simp only [announcedFields, hdest, Option.toList_some, List.map_cons, List.map_nil,
            List.length_cons, List.cons_append, List.nil_append, List.mem_cons,
            List.not_mem_nil, or_false] at hfield
          rcases hfield with rfl | rfl | rfl
          · rfl
          · simp [hlength]
          · have hget : (moRpDataMti :: narrow messageRef :: 0x00 ::
                (destLength :: digits ++ narrow ud.length :: ud))[3 + (digits.length + 1)]? =
                some (narrow ud.length) := by
              rw [Nat.add_comm 3]
              simp
            rw [hget, Option.map_some, hnarrow ud hle]
        · exact ⟨_, rfl, messageType_parseRpData _ _ _, href.trans hreference, nofun, hdata⟩
  | rpAck =>
      obtain rfl : getRpAckPdu messageRef userData = pdu :=
        Option.some.inj (Option.some.inj hencode)
      constructor
      · exact LengthsFit.of_faithfullyEncoded nofun nofun
      · intro hfit
        obtain ⟨href, hdata⟩ := parseRpAck_encoded (moRpAckMti ||| 1) (narrow messageRef)
          userData hfit.userData
        constructor
        · intro field hfield
          cases userData with
          | none => cases hfield
          | some ud =>
              obtain rfl := List.mem_singleton.mp hfield
              exact congrArg some (hnarrow ud (hfit.userData ud rfl))
        · exact ⟨_, rfl, messageType_parseRpAck _ _, href.trans hreference, nofun, hdata⟩
  | rpError =>
      obtain rfl : getRpErrorPdu messageRef cause userData = pdu :=
        Option.some.inj (Option.some.inj hencode)
      constructor
      · exact LengthsFit.of_faithfullyEncoded nofun nofun
      · intro hfit
        obtain ⟨href, hcause, hdata⟩ := parseRpError_encoded (moRpErrorMti ||| 1)
          (narrow messageRef) (narrow cause) userData hfit.userData
        constructor
        · intro field hfield
          rcases List.mem_cons.mp hfield with rfl | hfield
          · rfl
          · cases userData with
            | none => cases hfield
            | some ud =>
                obtain rfl := List.mem_singleton.mp hfield
                exact congrArg some (hnarrow ud (hfit.userData ud rfl))
        · refine ⟨_, rfl, messageType_parseRpError _ _, href.trans hreference, fun _ => ?_, hdata⟩
          have hoctet := hfit.cause rfl
          refine hcause.trans ?_
          rw [narrow_toNat]
          exact Int.emod_eq_of_lt hoctet.1 hoctet.2

/-- The codec is faithful for the messages whose lengths fit, and for received messages
that are not cut off within the user data. -/
theorem codec_faithful_iff (bcd : CalledPartyBcd) :
    (∀ (messageRef cause : Int) (messageType : RpMessageType) (destAddr : Option (List Char))
      (userData : Option Octets) (isRetry : Bool) (rp : SmsRPdu) (pdu : Octets),
      messageType ≠ .rpSmma →
      new messageRef messageType destAddr cause userData isRetry = some rp →
      rp.rpdu = some pdu → (FaithfullyEncoded bcd rp pdu ↔ LengthsFit rp)) ∧
    ∀ (pdu userData : Octets) (rp : SmsRPdu), parsePdu bcd pdu = some rp →
      rp.userData = some userData → (ExactUserData pdu userData ↔ NotTruncated pdu) := by
  constructor
  · intro messageRef cause messageType destAddr userData isRetry rp pdu htype hnew hpdu
    exact faithfullyEncoded_iff htype hnew hpdu
  · intro pdu userData rp hparse hdata
    exact exactUserData_iff hparse hdata

/-- An RP-ACK with one octet of user data, and an RP-DATA that is cut off. -/
theorem codec_faithful_iff_examples :
    FaithfullyEncoded (fun _ _ _ => none)
      { messageType := .rpAck, messageRef := 7, origAddr := none, destAddr := none,
        cause := 0, userData := some [0x2A], rpdu := some [0x02, 0x07, 0x41, 0x01, 0x2A],
        isRetry := false } [0x02, 0x07, 0x41, 0x01, 0x2A] ∧
    ¬ ExactUserData [0x01, 0x07, 0x00, 0x00, 0x02, 0x2A] [0x2A, 0x00] := by
  have hiff := codec_faithful_iff fun _ _ _ => none
  constructor
  · refine (hiff.1 7 0 .rpAck none (some [0x2A]) false _ _ nofun rfl rfl).mpr ⟨?_, nofun, nofun⟩
    rintro ud ⟨⟩
    decide
  · intro hexact
    obtain ⟨index, length, hindex, hlength, hlong⟩ :=
      (hiff.2 [0x01, 0x07, 0x00, 0x00, 0x02, 0x2A] [0x2A, 0x00] _ rfl rfl).mp hexact
    obtain rfl := Option.some.inj hindex
    obtain rfl := Option.some.inj hlength
    exact absurd hlong (by decide)

/-- User data that does not fit is announced by too small a length, and user data that is
cut off is filled up with zeros. -/
theorem not_codec_faithful :
    (¬ ∀ (messageRef cause : Int) (messageType : RpMessageType)
      (destAddr : Option (List Char)) (userData : Option Octets) (isRetry : Bool)
      (rp : SmsRPdu) (pdu : Octets), messageType ≠ .rpSmma →
      new messageRef messageType destAddr cause userData isRetry = some rp →
      rp.rpdu = some pdu → FaithfullyEncoded (fun _ _ _ => none) rp pdu) ∧
    ¬ ∀ (pdu userData : Octets) (rp : SmsRPdu), parsePdu (fun _ _ _ => none) pdu = some rp →
      rp.userData = some userData → ExactUserData pdu userData := by
  constructor
  · intro hfaithful
    have hlength := (hfaithful 7 0 .rpAck none (some (List.replicate 256 0)) false _ _
      nofun rfl rfl).lengthOctets (3, 256)
      (by simp only [announcedFields, Option.toList_some, List.map_cons, List.map_nil,
        List.length_replicate, List.mem_singleton])
    have hoctet : (getRpAckPdu 7 (some (List.replicate 256 0)))[3]? = some 0 := by
      rw [getRpAckPdu, optionalUserData, List.length_replicate]
      rfl
    rw [hoctet] at hlength
    exact absurd (Option.some.inj hlength) (by decide)
  · intro hexact
    obtain ⟨index, length, hindex, hlength, -, -, htake⟩ :=
      hexact [0x01, 0x07, 0x00, 0x00, 0x02, 0x2A] [0x2A, 0x00] _ rfl rfl
    obtain rfl := Option.some.inj hindex
    obtain rfl := Option.some.inj hlength
    exact absurd htake (by decide)

end ImsStack.Sms.SmsRPdu
