import ImsStack.Library.Slicing
import ImsStack.Platform.AString
import ImsStack.Sms.SmsRPdu

/-!
`SmsTPdu`: the parser of the messages of the SMS transfer layer.
-/

namespace ImsStack.Sms

open Library.Slicing Platform.AString Platform.Bytes

inductive Direction where
  | msToSc | scToMs
  deriving DecidableEq, Repr

/-- What has been found in a user data header of the parts of a concatenated message. -/
structure UdhFields where
  mUdhIei : Int
  mUdhReference : Int
  mUdhMaxNum : Int
  mUdhSeqNum : Int
  deriving DecidableEq, Repr

def UdhFields.initial : UdhFields :=
  { mUdhIei := -1, mUdhReference := -1, mUdhMaxNum := -1, mUdhSeqNum := -1 }

/-- A null reference is `none`. -/
structure SmsTPdu where
  mPdu : Option Octets
  mDirection : Option Direction
  mRpMti : RpMessageType
  mMessageTypeIndicator : Int
  mReplyPath : Int
  mMessageRef : Int
  mMoreMessageToSend : Int
  mLoopPrevention : Int
  mProtocolIdentifier : Int
  mDataCodingScheme : Int
  mRejectDuplicate : Int
  mStatusReportRequest : Int
  mStatusReportIndication : Int
  mStatusReportQualifier : Int
  mStatus : Int
  mParameterIndicator : Int
  mUserDataHeaderIndicator : Int
  mValidityPeriodFormat : Int
  mFailureCause : Int
  mUserDataLength : Int
  mUserDataHeader : Option Octets
  mUserData : Option Octets
  mOriginatingAddress : Option Octets
  mDestinationAddress : Option Octets
  mServiceCentreTimeStamp : Option Chars
  mDischargeTime : Option Chars
  udh : UdhFields
  deriving DecidableEq, Repr

abbrev PduParser := Cursor UInt8

namespace PduParser

/-- `hasMoreData()`. -/
def hasMoreData : Reader UInt8 Bool := fun p => some (decide (p.position < p.input.length), p)

/-- `hasMoreData(int)`. -/
def hasMoreDataOf (expectedOctets : Nat) : Reader UInt8 Bool := fun p =>
  some (decide (p.position + expectedOctets ≤ p.input.length), p)

/-- The step over what is left, after an error. -/
def toEnd (p : PduParser) : PduParser := { p with position := p.input.length }

def advance (p : PduParser) (octets : Nat) : PduParser := { p with position := p.position + octets }

def getOctet : Reader UInt8 Int := fun p =>
  if p.position < p.input.length then do
    let octet ← p.input[p.position]?
    return ((octet.toNat : Int), advance p 1)
  else some (-1, p)

def getAddress : Reader UInt8 (Option Octets) := fun p =>
  if p.position + 2 ≤ p.input.length then do
    let addressLengthInDigits ← p.input[p.position]?
    let bcdOctets := (addressLengthInDigits.toNat + 1) / 2
    let totalLength := 2 + bcdOctets
    if p.position + totalLength ≤ p.input.length then do
      let address ← copyOfRange p.input p.position (p.position + totalLength)
      return (some address, advance p totalLength)
    else return (none, toEnd p)
  else some (none, toEnd p)

def timestampsOctets : Nat := 7

def gsmBcdByteToInt (b : UInt8) : Nat :=
  (if b &&& 0xf0 ≤ 0x90 then ((b >>> 4) &&& 0x0f).toNat else 0) +
    (if b &&& 0x0f ≤ 0x09 then (b &&& 0x0f).toNat * 10 else 0)

/-- A number as `%02d` prints it. -/
def twoDigits (n : Nat) : Chars :=
  List.replicate (2 - (Nat.toDigits 10 n).length) '0' ++ Nat.toDigits 10 n

/-- The text of a time stamp. -/
def formatTimeStamp : Octets → Option Chars
  | [year, month, day, hour, minute, second, tzByte] =>
    let tzOffset : Int := gsmBcdByteToInt (tzByte &&& 0xf7)
    let tzOffset := if tzByte &&& 0x08 = 0 then tzOffset else -tzOffset
    some (twoDigits (gsmBcdByteToInt year) ++ '/' :: twoDigits (gsmBcdByteToInt month) ++
      '/' :: twoDigits (gsmBcdByteToInt day) ++ ' ' :: twoDigits (gsmBcdByteToInt hour) ++
      ':' :: twoDigits (gsmBcdByteToInt minute) ++ ':' :: twoDigits (gsmBcdByteToInt second) ++
      (if 0 ≤ tzOffset then '+' else '-') :: Nat.toDigits 10 tzOffset.natAbs)
  | _ => none

def getTimeStamp : Reader UInt8 (Option Chars) := fun p =>
  if p.position + timestampsOctets ≤ p.input.length then do
    let ts ← copyOfRange p.input p.position (p.position + timestampsOctets)
    let text ← formatTimeStamp ts
    return (some text, advance p timestampsOctets)
  else some (none, toEnd p)

def validityPeriodLengthOctets (format : Int) : Nat :=
  if format = 0x00 then 0 else if format = 0x02 then 1 else 7

def parseValidityPeriod (format : Int) : Reader UInt8 Unit := fun p =>
  if p.position + validityPeriodLengthOctets format ≤ p.input.length then
    some ((), advance p (validityPeriodLengthOctets format))
  else if 0 < validityPeriodLengthOctets format then some ((), toEnd p)
  else some ((), p)

/-- The part of the loop of `decodeUdhData` that looks into an element. -/
def decodeElement (fullHeader : Octets) (cursor : Nat) (iei ieil : UInt8) (udh : UdhFields) :
    Option UdhFields :=
  if iei = 0x00 ∧ ieil = 3 then do
    let reference ← fullHeader[cursor]?
    let maxNum ← fullHeader[cursor + 1]?
    let seqNum ← fullHeader[cursor + 2]?
    return { mUdhIei := iei.toNat, mUdhReference := reference.toNat, mUdhMaxNum := maxNum.toNat,
             mUdhSeqNum := seqNum.toNat }
  else if iei = 0x08 ∧ ieil = 4 then do
    let high ← fullHeader[cursor]?
    let low ← fullHeader[cursor + 1]?
    let maxNum ← fullHeader[cursor + 2]?
    let seqNum ← fullHeader[cursor + 3]?
    return { mUdhIei := iei.toNat, mUdhReference := ((high.toNat <<< 8) ||| low.toNat : Nat),
             mUdhMaxNum := maxNum.toNat, mUdhSeqNum := seqNum.toNat }
  else some udh

/-- The loop of `decodeUdhData`. -/
def decodeElements (fullHeader : Octets) (stop cursor : Nat) (udh : UdhFields) :
    Option UdhFields :=
  if h : cursor < stop then
    if cursor + 1 ≥ stop then some udh
    else do
      let iei ← fullHeader[cursor]?
      let ieil ← fullHeader[cursor + 1]?
      if cursor + 2 + ieil.toNat > stop then some udh
      else do
        let udh ← decodeElement fullHeader (cursor + 2) iei ieil udh
        decodeElements fullHeader stop (cursor + 2 + ieil.toNat) udh
  else some udh
termination_by stop - cursor

def decodeUdhData (fullHeader : Octets) (offset length : Nat) (udh : UdhFields) :
    Option UdhFields :=
  if length = 0 ∨ offset + length > fullHeader.length then some udh
  else decodeElements fullHeader (offset + length) offset udh

/-- The header, and what the fields of the header are then. -/
def parseUserDataHeader (udh : UdhFields) : Reader UInt8 (Option Octets × UdhFields) := fun p =>
  if p.position < p.input.length then do
    let headerLength ← p.input[p.position]?
    let totalHeaderLength := headerLength.toNat + 1
    if p.position + totalHeaderLength ≤ p.input.length then do
      let fullHeader ← copyOfRange p.input p.position (p.position + totalHeaderLength)
      let udh ← decodeUdhData fullHeader 1 headerLength.toNat udh
      return ((some fullHeader, udh), advance p totalHeaderLength)
    else return ((none, udh), toEnd p)
  else some ((none, udh), p)

def parseUserData : Reader UInt8 (Option Octets) := fun p =>
  if p.position < p.input.length then do
    let userData ← copyOfRange p.input p.position p.input.length
    return (some userData, toEnd p)
  else some (none, p)

end PduParser

namespace SmsTPdu

open PduParser

/-- The constructor. -/
def new (smsRpdu : SmsRPdu) (direction : Option Direction) : SmsTPdu where
  mPdu := smsRpdu.userData
  mDirection := direction
  mRpMti := smsRpdu.messageType
  mMessageTypeIndicator := -1
  mReplyPath := 0
  mMessageRef := 0
  mMoreMessageToSend := 0
  mLoopPrevention := 0
  mProtocolIdentifier := 0
  mDataCodingScheme := 0
  mRejectDuplicate := 0
  mStatusReportRequest := 0
  mStatusReportIndication := 0
  mStatusReportQualifier := 0
  mStatus := 0
  mParameterIndicator := -1
  mUserDataHeaderIndicator := 0
  mValidityPeriodFormat := 0
  mFailureCause := 0
  mUserDataLength := 0
  mUserDataHeader := none
  mUserData := none
  mOriginatingAddress := none
  mDestinationAddress := none
  mServiceCentreTimeStamp := none
  mDischargeTime := none
  udh := .initial

/-- `(octet >> shift) & mask` of an octet, or of -1, where all the bits are set. -/
def bits (octet : Int) (shift mask : Nat) : Int :=
  if octet < 0 then mask else ((octet.toNat >>> shift) &&& mask : Nat)

/-- The loop of `parseParameterIndicator`. -/
def skipIndicators (currentPI : Int) (p : PduParser) : Option (Unit × PduParser) :=
  if bits currentPI 0 0x80 ≠ 0 then
    if h : p.position < p.input.length then
      skipIndicators (p.input[p.position].toNat : Int) (advance p 1)
    else some ((), p)
  else some ((), p)
termination_by p.input.length - p.position
decreasing_by
  simp only [advance]
  omega

def parseParameterIndicator (t : SmsTPdu) : Reader UInt8 SmsTPdu := do
  if ← hasMoreData then
    let indicator ← getOctet
    skipIndicators indicator
    return { t with mParameterIndicator := indicator }
  else return t

/-- TP-UDL, with TP-UDH where the indicator says so, and TP-UD. -/
def parseUserDataFields (t : SmsTPdu) : Reader UInt8 SmsTPdu := do
  let length ← getOctet
  let t := { t with mUserDataLength := length }
  if t.mUserDataHeaderIndicator = 1 then
    let header ← parseUserDataHeader t.udh
    let userData ← parseUserData
    return { t with mUserDataHeader := header.1, udh := header.2, mUserData := userData }
  else
    let userData ← parseUserData
    return { t with mUserData := userData }

def parseOptionalUserData (t : SmsTPdu) : Reader UInt8 SmsTPdu := do
  if bits t.mParameterIndicator 0 0x04 ≠ 0 then
    if ← hasMoreData then parseUserDataFields t
    else return t
  else return t

def parseOptionalDcs (t : SmsTPdu) : Reader UInt8 SmsTPdu := do
  if bits t.mParameterIndicator 0 0x02 ≠ 0 then
    if ← hasMoreData then
      let dataCodingScheme ← getOctet
      parseOptionalUserData { t with mDataCodingScheme := dataCodingScheme }
    else return t
  else parseOptionalUserData t

def parseOptionalPid (t : SmsTPdu) : Reader UInt8 SmsTPdu := do
  if bits t.mParameterIndicator 0 0x01 ≠ 0 then
    if ← hasMoreData then
      let protocolIdentifier ← getOctet
      parseOptionalDcs { t with mProtocolIdentifier := protocolIdentifier }
    else return t
  else parseOptionalDcs t

/-- `parseOptionalParameters`, whose three parts return from it where no octet is left. -/
def parseOptionalParameters (t : SmsTPdu) : Reader UInt8 SmsTPdu := do
  if ← hasMoreData then
    if bits t.mParameterIndicator 0 0x78 ≠ 0 then return t
    else parseOptionalPid t
  else return t

/-- TP-FCS, which is not present in an RP-ACK. -/
def parseFailureCause (t : SmsTPdu) : Reader UInt8 SmsTPdu := do
  if t.mRpMti = .rpError then
    let cause ← getOctet
    return { t with mFailureCause := cause }
  else return t

def parseSmsSubmitReport (t : SmsTPdu) (firstOctet : Int) : Reader UInt8 SmsTPdu := do
  let t := { t with mUserDataHeaderIndicator := bits firstOctet 6 0x01 }
  if ← hasMoreData then
    let t ← parseFailureCause t
    let t ← parseParameterIndicator t
    if ← hasMoreDataOf timestampsOctets then
      let scts ← getTimeStamp
      parseOptionalParameters { t with mServiceCentreTimeStamp := scts }
    else return t
  else return t

def parseSmsDeliverReport (t : SmsTPdu) (firstOctet : Int) : Reader UInt8 SmsTPdu := do
  let t := { t with mUserDataHeaderIndicator := bits firstOctet 6 0x01 }
  if ← hasMoreData then
    let t ← parseFailureCause t
    let t ← parseParameterIndicator t
    parseOptionalParameters t
  else return t

def parseSmsSubmit (t : SmsTPdu) (firstOctet : Int) : Reader UInt8 SmsTPdu := do
  let t :=
    { t with
      mRejectDuplicate := bits firstOctet 2 0x01
      mValidityPeriodFormat := bits firstOctet 3 0x03
      mStatusReportRequest := bits firstOctet 5 0x01
      mUserDataHeaderIndicator := bits firstOctet 6 0x01
      mReplyPath := bits firstOctet 7 0x01 }
  let messageRef ← getOctet
  let destinationAddress ← getAddress
  let protocolIdentifier ← getOctet
  let dataCodingScheme ← getOctet
  parseValidityPeriod t.mValidityPeriodFormat
  parseUserDataFields
    { t with
      mMessageRef := messageRef
      mDestinationAddress := destinationAddress
      mProtocolIdentifier := protocolIdentifier
      mDataCodingScheme := dataCodingScheme }

def parseSmsDeliver (t : SmsTPdu) (firstOctet : Int) : Reader UInt8 SmsTPdu := do
  let t :=
    { t with
      mMoreMessageToSend := bits firstOctet 2 0x01
      mLoopPrevention := bits firstOctet 3 0x01
      mStatusReportIndication := bits firstOctet 5 0x01
      mUserDataHeaderIndicator := bits firstOctet 6 0x01
      mReplyPath := bits firstOctet 7 0x01 }
  let originatingAddress ← getAddress
  let protocolIdentifier ← getOctet
  let dataCodingScheme ← getOctet
  let scts ← getTimeStamp
  parseUserDataFields
    { t with
      mOriginatingAddress := originatingAddress
      mProtocolIdentifier := protocolIdentifier
      mDataCodingScheme := dataCodingScheme
      mServiceCentreTimeStamp := scts }

def parseSmsStatusReport (t : SmsTPdu) (firstOctet : Int) : Reader UInt8 SmsTPdu := do
  let t :=
    { t with
      mMoreMessageToSend := bits firstOctet 2 0x01
      mLoopPrevention := bits firstOctet 3 0x01
      mStatusReportQualifier := bits firstOctet 5 0x01
      mUserDataHeaderIndicator := bits firstOctet 6 0x01 }
  let messageRef ← getOctet
  let destinationAddress ← getAddress
  let scts ← getTimeStamp
  let dischargeTime ← getTimeStamp
  let status ← getOctet
  let t ← parseParameterIndicator
    { t with
      mMessageRef := messageRef
      mDestinationAddress := destinationAddress
      mServiceCentreTimeStamp := scts
      mDischargeTime := dischargeTime
      mStatus := status }
  parseOptionalParameters t

/-- The part of `parse` behind the first octet. -/
def parseMessage (t : SmsTPdu) (firstOctet : Int) : Reader UInt8 SmsTPdu :=
  match t.mDirection with
  | some .msToSc =>
    if t.mMessageTypeIndicator = 0 then t.parseSmsDeliverReport firstOctet
    else if t.mMessageTypeIndicator = 1 then t.parseSmsSubmit firstOctet
    else pure t
  | some .scToMs =>
    if t.mMessageTypeIndicator = 1 then t.parseSmsSubmitReport firstOctet
    else if t.mMessageTypeIndicator = 2 then t.parseSmsStatusReport firstOctet
    else t.parseSmsDeliver firstOctet
  | none => pure t

/-- What `parse` does with a PDU that is not empty. -/
def parsePdu (t : SmsTPdu) : Reader UInt8 SmsTPdu := do
  let firstOctet ← getOctet
  parseMessage { t with mMessageTypeIndicator := bits firstOctet 0 0x03 } firstOctet

/-- `parse`, with the parser as it leaves it; an exception is `none`. -/
def parse (t : SmsTPdu) : Option (SmsTPdu × PduParser) :=
  match t.mPdu with
  | none | some [] => some (t, ⟨[], 0⟩)
  | some pdu => t.parsePdu ⟨pdu, 0⟩

end SmsTPdu

end ImsStack.Sms
