import ImsStack.Platform.Bytes

/-!
`SmsRPdu`: the encoder of the messages of the SMS relay layer and the parser of those
that come from the network.
-/

namespace ImsStack.Sms

open Platform.Bytes

/-- `SmsUtils.RP_DATA` and so on. -/
inductive RpMessageType where
  | rpData | rpAck | rpError | rpSmma
  deriving DecidableEq, Repr

/-- `PhoneNumberUtils.calledPartyBCDToString` of the platform, from an index on and for
a number of octets; an exception is a null string. -/
abbrev CalledPartyBcd := Octets → Nat → Nat → Option (List Char)

def maxTpduLength : Nat := 232

def moRpDataMti : UInt8 := 0x00
def moRpAckMti : UInt8 := 0x02
def moRpErrorMti : UInt8 := 0x04
def moRpSmmaMti : UInt8 := 0x06

/-- `RP_UD_IEI`. -/
def rpUdIei : UInt8 := 0x41

/-- `RP_CAUSE_LENGTH_INDICATOR`. -/
def rpCauseLengthIndicator : UInt8 := 0x01

/-- A null reference is `none`. -/
structure SmsRPdu where
  messageType : RpMessageType
  messageRef : Int
  origAddr : Option (List Char)
  destAddr : Option (List Char)
  cause : Int
  userData : Option Octets
  rpdu : Option Octets
  isRetry : Bool
  deriving DecidableEq, Repr

namespace SmsRPdu

/-- `SmsRPdu::getRPCause`. -/
def getRPCause (rp : SmsRPdu) : Int := rp.cause % 256

/-- `SmsRPdu::getRpDataPdu`; `some none` is the null it returns without a destination
address. -/
def getRpDataPdu (messageRef : Int) (destAddr : Option (List Char)) (userData : Option Octets) :
    Option (Option Octets) :=
  match destAddr with
  | none => some none
  | some hex => do
    let destinationAddress ← hexStringToBytes hex
    if destinationAddress = [] then some none
    else do
      let userData ← userData
      some (some (moRpDataMti :: narrow messageRef :: 0x00 ::
        (destinationAddress ++ narrow userData.length :: userData)))

/-- What `getRpAckPdu` and `getRpErrorPdu` end with. -/
def optionalUserData : Option Octets → Octets
  | none => []
  | some userData => rpUdIei :: narrow userData.length :: userData

/-- `SmsRPdu::getRpAckPdu`. -/
def getRpAckPdu (messageRef : Int) (userData : Option Octets) : Octets :=
  moRpAckMti :: narrow messageRef :: optionalUserData userData

/-- `SmsRPdu::getRpErrorPdu`. -/
def getRpErrorPdu (messageRef cause : Int) (userData : Option Octets) : Octets :=
  moRpErrorMti :: narrow messageRef :: rpCauseLengthIndicator :: narrow cause ::
    optionalUserData userData

/-- `SmsRPdu::getRpSmmaPdu`. -/
def getRpSmmaPdu (messageRef : Int) : Octets := [moRpSmmaMti, narrow messageRef]

/-- `SmsRPdu::encodeRpduByteArray`. -/
def encodeRpduByteArray (messageRef : Int) (messageType : RpMessageType)
    (destAddr : Option (List Char)) (cause : Int) (userData : Option Octets) :
    Option (Option Octets) :=
  match messageType with
  | .rpData => getRpDataPdu messageRef destAddr userData
  | .rpAck => some (some (getRpAckPdu messageRef userData))
  | .rpError => some (some (getRpErrorPdu messageRef cause userData))
  | .rpSmma => some (some (getRpSmmaPdu messageRef))

/-- The constructor for a message that is sent. -/
def new (messageRef : Int) (messageType : RpMessageType) (destAddr : Option (List Char))
    (cause : Int) (userData : Option Octets) (isRetry : Bool) : Option SmsRPdu := do
  let rpdu ← encodeRpduByteArray messageRef messageType destAddr cause userData
  some { messageType, messageRef, origAddr := none, destAddr, cause, userData, rpdu, isRetry }

/-- `PduParser::getByte`, with the index behind the octet. -/
def getByte (pdu : Octets) (cur : Nat) : Option (Nat × Nat) :=
  match pdu[cur]? with
  | none => none
  | some octet => some (octet.toNat, cur + 1)

/-- `PduParser::getAddress`. -/
def getAddress (bcd : CalledPartyBcd) (pdu : Octets) (cur : Nat) :
    Option (Option (List Char) × Nat) := do
  let (len, cur) ← getByte pdu cur
  some (if len = 0 then none else bcd pdu cur len, cur + len)

/-- `PduParser::getUserDataForRpData`. -/
def getUserDataForRpData (pdu : Octets) (cur : Nat) : Option (Option Octets) := do
  let (udlen, cur) ← getByte pdu cur
  if maxTpduLength < udlen then some none
  else (copyOfRange pdu cur (cur + udlen)).map some

/-- `PduParser::getUserDataForRpAckOrRpError`. -/
def getUserDataForRpAckOrRpError (pdu : Octets) (cur : Nat) : Option (Option Octets) := do
  let (udIdentifier, cur) ← getByte pdu cur
  if udIdentifier ≠ rpUdIei.toNat then some none else getUserDataForRpData pdu cur

/-- The fields of a message before it is parsed. -/
def unparsed (pdu : Octets) (messageType : RpMessageType) : SmsRPdu where
  messageType := messageType
  messageRef := 0
  origAddr := none
  destAddr := none
  cause := 0
  userData := none
  rpdu := some pdu
  isRetry := false

/-- `SmsRPdu::parseRpData`.  An exception leaves what has been read, but for the
originating address. -/
def parseRpData (bcd : CalledPartyBcd) (pdu : Octets) (cur : Nat) : SmsRPdu :=
  let rp := unparsed pdu .rpData
  match getByte pdu cur with
  | none => rp
  | some (messageRef, cur) =>
    let rp := { rp with messageRef := messageRef }
    match getAddress bcd pdu cur with
    | none => rp
    | some (origAddr, cur) =>
      match getAddress bcd pdu cur with
      | none => rp
      | some (destAddr, cur) =>
        let rp := { rp with destAddr := destAddr }
        match getUserDataForRpData pdu cur with
        | none => rp
        | some userData => { rp with origAddr := origAddr, userData := userData }

/-- `SmsRPdu::parseRpAck`. -/
def parseRpAck (pdu : Octets) (cur : Nat) : SmsRPdu :=
  let rp := unparsed pdu .rpAck
  match getByte pdu cur with
  | none => rp
  | some (messageRef, cur) =>
    let rp := { rp with messageRef := messageRef }
    if pdu.length ≤ 2 then rp
    else
      match getUserDataForRpAckOrRpError pdu cur with
      | none => rp
      | some userData => { rp with userData := userData }

/-- A number of octets that are not looked at. -/
def skipBytes (pdu : Octets) (cur : Nat) : Nat → Option Nat
  | 0 => some cur
  | n + 1 => do
    let (_, cur) ← getByte pdu cur
    skipBytes pdu cur n

/-- `SmsRPdu::parseRpError`. -/
def parseRpError (pdu : Octets) (cur : Nat) : SmsRPdu :=
  let rp := unparsed pdu .rpError
  match getByte pdu cur with
  | none => rp
  | some (messageRef, cur) =>
    let rp := { rp with messageRef := messageRef }
    match getByte pdu cur with
    | none => rp
    | some (causeLen, cur) =>
      match getByte pdu cur with
      | none => rp
      | some (cause, cur) =>
        let rp := { rp with cause := cause }
        -- the last octet of the diagnostics
        let index := cur + causeLen - 1
        if pdu.length ≤ index then rp
        else
          match skipBytes pdu cur (causeLen - 1) with
          | none => rp
          | some cur =>
            match getUserDataForRpAckOrRpError pdu cur with
            | none => rp
            | some userData => { rp with userData := userData }

/-- `SmsRPdu::parsePdu`, with the constructor for a received message; the first octet
alone can make it fail. -/
def parsePdu (bcd : CalledPartyBcd) (pdu : Octets) : Option SmsRPdu := do
  let (firstByte, cur) ← getByte pdu 0
  match firstByte % 8 with
  | 1 => some (parseRpData bcd pdu cur)
  | 3 => some (parseRpAck pdu cur)
  | 5 => some (parseRpError pdu cur)
  | _ => none

end SmsRPdu

end ImsStack.Sms
