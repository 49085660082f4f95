import ImsStack.Platform.Bytes
import ImsStack.Sms.BitwiseInputStream

/-!
`CdmaSmsMessageHelper::parseCdmaPdu`: the parameters of a SMS message in the CDMA format.
-/

namespace ImsStack.Sms

open Platform.Bytes

structure CdmaSmsAddress where
  digitMode : Nat
  numberMode : Nat
  numberOfDigits : Nat
  numberPlan : Nat
  ton : Nat
  origBytes : Option Octets
  deriving DecidableEq, Repr

structure CdmaSmsMessage where
  mMessageType : Int
  mTeleService : Nat
  mServiceCategory : Nat
  mBearerReply : Nat
  mReplySeqNo : UInt8
  mErrorClass : UInt8
  mCauseCode : UInt8
  mBearerData : Option Octets
  mSmsAddr : CdmaSmsAddress
  deriving DecidableEq, Repr

/-- The object at the start of `parseCdmaPdu`, with the type of the message. -/
def CdmaSmsMessage.new (mMessageType : Int) : CdmaSmsMessage where
  mMessageType := mMessageType
  mTeleService := 0
  mServiceCategory := 0
  mBearerReply := 0
  mReplySeqNo := 0
  mErrorClass := 0
  mCauseCode := 0
  mBearerData := none
  mSmsAddr :=
    { digitMode := 0, numberMode := 0, numberOfDigits := 0, numberPlan := 0, ton := 0,
      origBytes := none }

/-- An assignment to a field of the message. -/
inductive CdmaAssignment where
  | teleService (value : Nat)
  | serviceCategory (value : Nat)
  | digitMode (value : Nat)
  | numberMode (value : Nat)
  | ton (value : Nat)
  | numberPlan (value : Nat)
  | numberOfDigits (value : Nat)
  | origBytes (value : Octets)
  | bearerReply (value : Nat)
  | replySeqNo (value : UInt8)
  | errorClass (value : UInt8)
  | causeCode (value : UInt8)
  | bearerData (value : Octets)
  deriving DecidableEq, Repr

def CdmaSmsMessage.assign (m : CdmaSmsMessage) : CdmaAssignment → CdmaSmsMessage
  | .teleService value => { m with mTeleService := value }
  | .serviceCategory value => { m with mServiceCategory := value }
  | .digitMode value => { m with mSmsAddr := { m.mSmsAddr with digitMode := value } }
  | .numberMode value => { m with mSmsAddr := { m.mSmsAddr with numberMode := value } }
  | .ton value => { m with mSmsAddr := { m.mSmsAddr with ton := value } }
  | .numberPlan value => { m with mSmsAddr := { m.mSmsAddr with numberPlan := value } }
  | .numberOfDigits value => { m with mSmsAddr := { m.mSmsAddr with numberOfDigits := value } }
  | .origBytes value => { m with mSmsAddr := { m.mSmsAddr with origBytes := some value } }
  | .bearerReply value => { m with mBearerReply := value }
  | .replySeqNo value => { m with mReplySeqNo := value }
  | .errorClass value => { m with mErrorClass := value }
  | .causeCode value => { m with mCauseCode := value }
  | .bearerData value => { m with mBearerData := some value }

/-- What ends the parsing. -/
inductive CdmaError where
  | stream (e : BitStreamError)
  | endOfFile
  | unsupported (parameterId : UInt8)
  deriving DecidableEq, Repr

/-! ### The parameters that are read through a buffer -/

/-- The stream over the octets of a parameter, and the assignments so far. -/
structure CdmaDecoder where
  bis : BitwiseInputStream
  assigned : List CdmaAssignment
  deriving DecidableEq, Repr

namespace CdmaDecoder

def read (bits : Int) : EStateM CdmaError CdmaDecoder Nat := fun d =>
  match BitwiseInputStream.read bits d.bis with
  | .ok value bis => .ok value { d with bis := bis }
  | .error e bis => .error (.stream e) { d with bis := bis }

/-- `readByteArray(bits)[0]`. -/
def readFirstByte (bits : Int) : EStateM CdmaError CdmaDecoder UInt8 := fun d =>
  match BitwiseInputStream.readByteArray bits d.bis with
  | .ok (b :: _) bis => .ok b { d with bis := bis }
  | .ok [] bis => .error (.stream .indexOutOfBounds) { d with bis := bis }
  | .error e bis => .error (.stream e) { d with bis := bis }

def assign (a : CdmaAssignment) : EStateM CdmaError CdmaDecoder Unit :=
  modify fun d => { d with assigned := d.assigned ++ [a] }

def convertDtmfToAscii (dtmfDigit : Nat) : UInt8 :=
  if dtmfDigit = 0 then 68
  else if dtmfDigit ≤ 9 then UInt8.ofNat (48 + dtmfDigit)
  else if dtmfDigit = 10 then 48
  else if dtmfDigit = 11 then 42
  else if dtmfDigit = 12 then 35
  else if dtmfDigit ≤ 15 then UInt8.ofNat (52 + dtmfDigit)
  else 32

def readDtmfDigits : Nat → EStateM CdmaError CdmaDecoder Octets
  | 0 => pure []
  | n + 1 => do
    let b ← read 4
    let others ← readDtmfDigits n
    return convertDtmfToAscii (b &&& 0xf) :: others

def readCharDigits : Nat → EStateM CdmaError CdmaDecoder Octets
  | 0 => pure []
  | n + 1 => do
    let b ← read 8
    let others ← readCharDigits n
    return UInt8.ofNat (b &&& 0xff) :: others

/-- The digits of an address; those of a data network stay zero. -/
def readDigits (digitMode numberMode numberOfDigits : Nat) : EStateM CdmaError CdmaDecoder Octets :=
  if digitMode = 0 then readDtmfDigits numberOfDigits
  else if digitMode = 1 ∧ numberMode = 0 then readCharDigits numberOfDigits
  else pure (List.replicate numberOfDigits 0)

/-- The number plan, of an address that is not one of a data network. -/
def readNumberPlan (numberMode : Nat) : EStateM CdmaError CdmaDecoder Unit :=
  if numberMode = 0 then do
    let numberPlan ← read 4
    assign (.numberPlan numberPlan)
  else pure ()

/-- The number type and plan, of an address of characters. -/
def readNumberType (digitMode numberMode : Nat) : EStateM CdmaError CdmaDecoder Unit :=
  if digitMode = 1 then do
    let numberType ← read 3
    assign (.ton numberType)
    readNumberPlan numberMode
  else pure ()

def originatingAddress : EStateM CdmaError CdmaDecoder Unit := do
  let digitMode ← read 1
  assign (.digitMode digitMode)
  let numberMode ← read 1
  assign (.numberMode numberMode)
  readNumberType digitMode numberMode
  let numberOfDigits ← read 8
  assign (.numberOfDigits numberOfDigits)
  let data ← readDigits digitMode numberMode numberOfDigits
  assign (.origBytes data)

/-- The sub-address is read and not kept. -/
def originatingSubAddress : EStateM CdmaError CdmaDecoder Unit := do
  let _ ← read 3
  let _ ← readFirstByte 1
  let subAddrLen ← read 8
  let _ ← readDtmfDigits subAddrLen
  return ()

def bearerReplyOption : EStateM CdmaError CdmaDecoder Unit := do
  let bearerReply ← read 6
  assign (.bearerReply bearerReply)

def causeCodes : EStateM CdmaError CdmaDecoder Unit := do
  let replySeqNo ← readFirstByte 6
  assign (.replySeqNo replySeqNo)
  let errorClass ← readFirstByte 2
  assign (.errorClass errorClass)
  if errorClass ≠ 0 then do
    let causeCode ← readFirstByte 8
    assign (.causeCode causeCode)

end CdmaDecoder

inductive BufferedId where
  | originatingAddress | originatingSubAddress | bearerReplyOption | causeCodes | bearerData
  deriving DecidableEq, Repr

/-- The parameter identifiers: a parameter of 16 bits that is read from the PDU itself, or one that is
read through a buffer. -/
inductive CdmaParameterId where
  | teleserviceIdentifier
  | serviceCategory
  | buffered (id : BufferedId)
  deriving DecidableEq, Repr

def CdmaParameterId.octet : CdmaParameterId → UInt8
  | .teleserviceIdentifier => 0x00
  | .serviceCategory => 0x01
  | .buffered .originatingAddress => 0x02
  | .buffered .originatingSubAddress => 0x03
  | .buffered .bearerReplyOption => 0x06
  | .buffered .causeCodes => 0x07
  | .buffered .bearerData => 0x08

def CdmaParameterId.ofOctet? (octet : UInt8) : Option CdmaParameterId :=
  if octet = 0x00 then some .teleserviceIdentifier
  else if octet = 0x01 then some .serviceCategory
  else if octet = 0x02 then some (.buffered .originatingAddress)
  else if octet = 0x03 then some (.buffered .originatingSubAddress)
  else if octet = 0x06 then some (.buffered .bearerReplyOption)
  else if octet = 0x07 then some (.buffered .causeCodes)
  else if octet = 0x08 then some (.buffered .bearerData)
  else none

/-- What is done with the buffer of a parameter. -/
def BufferedId.decode (id : BufferedId) (parameterData : Octets) :
    EStateM CdmaError CdmaDecoder Unit :=
  match id with
  | .originatingAddress => CdmaDecoder.originatingAddress
  | .originatingSubAddress => CdmaDecoder.originatingSubAddress
  | .bearerReplyOption => CdmaDecoder.bearerReplyOption
  | .causeCodes => CdmaDecoder.causeCodes
  | .bearerData => CdmaDecoder.assign (.bearerData parameterData)

/-! ### The loop over the parameters -/

/-- The message, and what is left of the PDU. -/
structure CdmaParser where
  message : CdmaSmsMessage
  dis : Octets
  deriving DecidableEq, Repr

namespace CdmaParser

/-- `readByte` and `readUnsignedByte`. -/
def readOctet : EStateM CdmaError CdmaParser UInt8 := fun p =>
  match p.dis with
  | [] => .error .endOfFile p
  | b :: rest => .ok b { p with dis := rest }

def readUnsignedShort : EStateM CdmaError CdmaParser Nat := fun p =>
  match p.dis with
  | high :: low :: rest => .ok (256 * high.toNat + low.toNat) { p with dis := rest }
  | _ => .error .endOfFile { p with dis := [] }

/-- `read` into a new array of a length: what is not read stays zero. -/
def readData (parameterLen : Nat) : EStateM CdmaError CdmaParser Octets := fun p =>
  let data := p.dis.take parameterLen
  .ok (data ++ List.replicate (parameterLen - data.length) 0)
    { p with dis := p.dis.drop parameterLen }

def assign (a : CdmaAssignment) : EStateM CdmaError CdmaParser Unit :=
  modify fun p => { p with message := p.message.assign a }

/-- The assignments of a parameter are made, also those in front of an exception. -/
def decodeData (id : BufferedId) (parameterData : Octets) : EStateM CdmaError CdmaParser Unit :=
  fun p =>
    match id.decode parameterData { bis := .create parameterData, assigned := [] } with
    | .ok _ d => .ok () { p with message := d.assigned.foldl CdmaSmsMessage.assign p.message }
    | .error e d => .error e { p with message := d.assigned.foldl CdmaSmsMessage.assign p.message }

/-- The cases of the loop; only those with a buffer look at the length. -/
def parameterOf (id : CdmaParameterId) (parameterLen : UInt8) :
    EStateM CdmaError CdmaParser Unit :=
  match id with
  | .teleserviceIdentifier => do
    let value ← readUnsignedShort
    assign (.teleService value)
  | .serviceCategory => do
    let value ← readUnsignedShort
    assign (.serviceCategory value)
  | .buffered id => do
    let parameterData ← readData parameterLen.toNat
    decodeData id parameterData

/-- The body of the loop. -/
def parameter : EStateM CdmaError CdmaParser Unit := do
  let parameterId ← readOctet
  let parameterLen ← readOctet
  match CdmaParameterId.ofOctet? parameterId with
  | some id => parameterOf id parameterLen
  | none => throw (.unsupported parameterId)

/-- The loop, of which a pass takes two octets at least. -/
def parameters : Nat → EStateM CdmaError CdmaParser Unit
  | 0 => pure ()
  | n + 1 => do
    let p ← get
    if p.dis = [] then pure ()
    else do
      parameter
      parameters n

end CdmaParser

/-- How `parseCdmaPdu` ends, and with which message. -/
def parseCdma (pdu : Octets) : EStateM.Result CdmaError CdmaParser Unit :=
  match pdu with
  | [] => .error .endOfFile ⟨.new 0, []⟩
  | messageType :: dis =>
    CdmaParser.parameters dis.length ⟨.new messageType.toInt8.toInt, dis⟩

/-- `parseCdmaPdu`; an exception is logged, and the message stays as it is then. -/
def parseCdmaPdu (pdu : Octets) : CdmaSmsMessage :=
  match parseCdma pdu with
  | .ok _ p => p.message
  | .error _ p => p.message

end ImsStack.Sms
