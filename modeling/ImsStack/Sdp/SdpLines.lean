import ImsStack.Sdp.SdpText

/-!
The lines of SDP: for each class of `protocol/sdp` the fields it keeps, `Decode`
of the body of a line and `GetValue`.  A decoder yields `none` where the source
returns false.
-/

namespace ImsStack.Sdp

open Platform.AString

structure SdpVersion where
  version : Int
  deriving DecidableEq, Repr

def SdpVersion.decode (value : Chars) : Option SdpVersion := (toInt32? value).map SdpVersion.mk

/-- The value as `Encode` prints it, with `%u`. -/
def SdpVersion.value (v : SdpVersion) : Chars := setNumber (v.version % 2 ^ 32)

structure SdpOrigin where
  username : Chars
  sessionId : Chars
  sessionVersion : Chars
  netType : NetType
  strNetType : Chars
  addrType : AddrType
  strAddrType : Chars
  unicastAddress : Chars
  deriving DecidableEq, Repr

def SdpOrigin.decode (value : Chars) : Option SdpOrigin :=
  match splitLine 6 value with
  | some [username, sessionId, sessionVersion, strNetType, strAddrType, unicastAddress] => do
    guard (isNonWsString username)
    guard (isDigitString sessionId)
    guard (isDigitString sessionVersion)
    let netType ← decodeNetType strNetType
    let addrType ← decodeAddrType strAddrType
    guard (checkValidityForAddress unicastAddress addrType)
    return { username, sessionId, sessionVersion, netType, strNetType, addrType, strAddrType,
             unicastAddress }
  | _ => none

def SdpOrigin.isValid (o : SdpOrigin) : Bool :=
  !o.username.isEmpty && !o.sessionId.isEmpty && !o.sessionVersion.isEmpty &&
    !o.strNetType.isEmpty && !o.strAddrType.isEmpty && !o.unicastAddress.isEmpty

def SdpOrigin.value (o : SdpOrigin) : Chars :=
  o.username ++ ' ' :: (o.sessionId ++ ' ' :: (o.sessionVersion ++ ' ' :: (o.strNetType ++
    ' ' :: (o.strAddrType ++ ' ' :: o.unicastAddress))))

structure SdpSessionName where
  name : Chars
  deriving DecidableEq, Repr

def SdpSessionName.decode (value : Chars) : Option SdpSessionName :=
  if isTextString value then some ⟨value⟩ else none

structure SdpInformation where
  information : Chars
  deriving DecidableEq, Repr

def SdpInformation.decode (value : Chars) : Option SdpInformation :=
  if isTextString value then some ⟨value⟩ else none

structure SdpUri where
  uri : Chars
  deriving DecidableEq, Repr

def SdpUri.decode (value : Chars) : Option SdpUri :=
  if isUriString value then some ⟨value⟩ else none

structure SdpConnection where
  netType : NetType := .in_
  strNetType : Chars := "IN".toList
  addrType : AddrType := .ip6
  strAddrType : Chars := "IP6".toList
  address : Chars := []
  ttl : Int := 0
  numOfAddress : Int := 0
  deriving DecidableEq, Repr

def SdpConnection.decode (value : Chars) : Option SdpConnection :=
  match splitLine 3 value with
  | some [strNetType, strAddrType, connectionAddress] => do
    let netType ← decodeNetType strNetType
    let addrType ← decodeAddrType strAddrType
    guard (connectionAddress ≠ [])
    let address :: multicast := split '/' connectionAddress | none
    let ttl ← match multicast with
      | [] => some 0
      | ttl :: _ => toInt32? ttl
    let numOfAddress ← match multicast with
      | [_, numOfAddress] => toInt32? numOfAddress
      | _ => some 0
    guard (checkValidityForAddress address addrType)
    return { netType, strNetType, addrType, strAddrType, address, ttl, numOfAddress }
  | _ => none

def SdpConnection.isValid (c : SdpConnection) : Bool :=
  !c.strNetType.isEmpty && !c.strAddrType.isEmpty && !c.address.isEmpty

/-- `SdpConnection::GetValue`, which leaves the multicast fields out. -/
def SdpConnection.value (c : SdpConnection) : Chars :=
  c.strNetType ++ ' ' :: (c.strAddrType ++ ' ' :: c.address)

inductive BandwidthType where
  | as_ | ct | rr | rs | tias | other
  deriving DecidableEq, Repr

structure SdpBandwidth where
  type : BandwidthType
  strType : Chars
  bandwidth : Int
  deriving DecidableEq, Repr

def SdpBandwidth.decodeType (strType : Chars) : BandwidthType :=
  if equalsLiteral strType "AS" then .as_
  else if equalsLiteral strType "CT" then .ct
  else if equalsLiteral strType "RR" then .rr
  else if equalsLiteral strType "RS" then .rs
  else if equalsLiteral strType "TIAS" then .tias
  else .other

def SdpBandwidth.decode (value : Chars) : Option SdpBandwidth :=
  match split ':' value with
  | [strType, bandwidth] =>
    if isTokenString strType ∧ isDigitString bandwidth then
      some { type := decodeType strType, strType, bandwidth := toInt32 bandwidth }
    else none
  | _ => none

def SdpBandwidth.value (b : SdpBandwidth) : Chars := b.strType ++ ':' :: setNumber b.bandwidth

structure SdpTime where
  startTime : Nat
  stopTime : Nat
  deriving DecidableEq, Repr

def SdpTime.decode (value : Chars) : Option SdpTime :=
  match splitLine 2 value with
  | some [startTime, stopTime] =>
    if isDigitString startTime ∧ isDigitString stopTime then
      some { startTime := toUInt32 startTime, stopTime := toUInt32 stopTime }
    else none
  | _ => none

def SdpTime.value (t : SdpTime) : Chars := setNumber t.startTime ++ ' ' :: setNumber t.stopTime

structure SdpRepeatTime where
  repeatInterval : Nat
  activeDuration : Nat
  firstOffset : Nat
  additionalOffsets : List Nat
  deriving DecidableEq, Repr

/-- A typed time of an r-line. -/
def decodeTypedTime (s : Chars) : Option Nat :=
  if isTypedTimeString s then some (convertTypedTimeToSeconds s) else none

def SdpRepeatTime.decode (value : Chars) : Option SdpRepeatTime :=
  match splitLine 3 value with
  | some [interval, duration, offsets] => do
    guard (interval.head?.any fun c => decide ('1' ≤ c ∧ c ≤ '9'))
    let repeatInterval ← decodeTypedTime interval
    let activeDuration ← decodeTypedTime duration
    let firstOffset :: additionalOffsets ← (split ' ' offsets).mapM decodeTypedTime | none
    return { repeatInterval, activeDuration, firstOffset, additionalOffsets }
  | _ => none

def SdpRepeatTime.isValid (r : SdpRepeatTime) : Bool :=
  decide (r.repeatInterval ≠ 0 ∧ r.activeDuration ≠ 0)

/-- Numbers with a space in front of each. -/
def spacedNumbers (numbers : List Nat) : Chars := numbers.flatMap fun n : Nat => ' ' :: setNumber n

def SdpRepeatTime.value (r : SdpRepeatTime) : Chars :=
  setNumber r.repeatInterval ++ ' ' :: (setNumber r.activeDuration ++ ' ' ::
    (setNumber r.firstOffset ++ spacedNumbers r.additionalOffsets))

structure ZoneAdjustment where
  adjustmentTime : Nat
  offset : Int
  deriving DecidableEq, Repr

structure SdpTimezone where
  zoneAdjustments : List ZoneAdjustment
  deriving DecidableEq, Repr

/-- A number of `IMS_UINT32` taken as `IMS_SINT32`. -/
def toSigned32 (n : Int) : Int := (n + 2 ^ 31) % 2 ^ 32 - 2 ^ 31

/-- The minus sign in front of an offset, and the rest. -/
def readMinus : Chars → Bool × Chars
  | '-' :: text => (true, text)
  | text => (false, text)

def ZoneAdjustment.decode (adjustment offset : Chars) : Option ZoneAdjustment := do
  guard (adjustment.length = 10 ∧ isDigitString adjustment)
  let strOffset := readMinus offset
  guard (isTypedTimeString strOffset.2)
  let n := toSigned32 (convertTypedTimeToSeconds strOffset.2)
  return { adjustmentTime := toUInt32 adjustment
           offset := if strOffset.1 then toSigned32 (-n) else n }

def SdpTimezone.decodeAdjustments : List Chars → Option (List ZoneAdjustment)
  | [] => some []
  | [_] => none
  | adjustment :: offset :: tokens => do
    let zone ← ZoneAdjustment.decode adjustment offset
    let zones ← decodeAdjustments tokens
    return zone :: zones

def SdpTimezone.decode (value : Chars) : Option SdpTimezone :=
  let tokens := split ' ' value
  if tokens.length < 2 then none else (decodeAdjustments tokens).map SdpTimezone.mk

def ZoneAdjustment.value (z : ZoneAdjustment) : Chars :=
  setNumber z.adjustmentTime ++ ' ' :: setNumber z.offset

def SdpTimezone.value (z : SdpTimezone) : Chars :=
  [' '].intercalate (z.zoneAdjustments.map ZoneAdjustment.value)

inductive EncryptionMethod where
  | prompt | clear | base64 | uri
  deriving DecidableEq, Repr

def EncryptionMethod.text : EncryptionMethod → String
  | .prompt => "prompt"
  | .clear => "clear"
  | .base64 => "base64"
  | .uri => "uri"

structure SdpEncryptionKey where
  method : EncryptionMethod
  key : Chars
  deriving DecidableEq, Repr

def SdpEncryptionKey.decode (value : Chars) : Option SdpEncryptionKey := do
  let strMethod := value.takeWhile (· ≠ ':')
  let key := (value.dropWhile (· ≠ ':')).drop 1
  let method ← [EncryptionMethod.prompt, .clear, .base64, .uri].find? fun method =>
    equalsLiteral strMethod method.text
  guard (method = .prompt ↔ key = [])
  return { method, key }

def SdpEncryptionKey.value (k : SdpEncryptionKey) : Chars :=
  k.method.text.toList ++ if k.method = .prompt then [] else ':' :: k.key

end ImsStack.Sdp
