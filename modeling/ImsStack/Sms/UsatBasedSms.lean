import ImsStack.Sms.SmsStack

/-!
`SmsTransferLayer.UsatBasedSms`: a message that waits for the answer of the USIM to a MO SMS control
command, and the new destination that the answer may give it.
-/

namespace ImsStack.Sms

open Platform.Bytes

/-- `Usat.MoSmsControlCommand`, with what makes it a command of its own. -/
structure MoSmsControlCommand where
  cid : Int
  rpDestinationAddress : Option JavaString
  tpDestinationAddress : Option JavaString
  deriving DecidableEq, Repr

/-- `Usat.RESULT_*`. -/
inductive UsatResult where
  | allowed | notAllowed | allowedWithModification
  deriving DecidableEq, Repr

/-- `Usat.MoSmsControlCommandResponse`. -/
structure MoSmsControlCommandResponse where
  command : MoSmsControlCommand
  result : UsatResult
  rpDestinationAddress : Option JavaString
  tpDestinationAddress : Option JavaString
  deriving DecidableEq, Repr

/-- The encoders of `PhoneNumberUtils`, which may give null. -/
structure BcdEncoders where
  networkPortionToCalledPartyBCD : JavaString → Option Octets
  networkPortionToCalledPartyBCDWithLength : JavaString → Option Octets

/-- `HEX_DIGITS`. -/
def hexDigitOf (n : Nat) : Char := if n < 10 then Char.ofNat (48 + n) else Char.ofNat (55 + n)

/-- `ImsUtils::bytesToHexString`. -/
def bytesToHexString (bytes : Octets) : JavaString :=
  bytes.flatMap fun b : UInt8 => [hexDigitOf (b >>> 4).toNat, hexDigitOf (b &&& 0x0f).toNat]

namespace UsatBasedSms

/-- `calculateTpDestAddrLengthByte`; an array access outside is `none`. -/
def calculateTpDestAddrLengthByte (tpDestAddrBytes : Octets) : Option Int := do
  let last ← tpDestAddrBytes.getLast?
  let destAddrLen : Int := ((tpDestAddrBytes.length : Int) - 1) * 2
  return if last &&& 0xf0 = 0xf0 then destAddrLen - 1 else destAddrLen

/-- `calculateIndexAfterTpDestAddr`, of bytes with a sign. -/
def calculateIndexAfterTpDestAddr (tpdu : Octets) : Option Int := do
  let length ← tpdu[2]?
  return 4 + (length.toInt8.toInt + 1).tdiv 2

/-- `ByteArrayOutputStream::write` of a part of an array; an exception is `none`. -/
def write (bytes : Octets) (off len : Int) : Option Octets :=
  if off < 0 ∨ len < 0 ∨ bytes.length < off + len then none
  else some ((bytes.drop off.toNat).take len.toNat)

/-- The TPDU with a new destination. -/
def replaceDestination (encoders : BcdEncoders) (tpdu : Octets) (tpDestAddr : JavaString) :
    Option Octets := do
  let tpDestAddrBytes ← encoders.networkPortionToCalledPartyBCD tpDestAddr
  let destAddrLen ← calculateTpDestAddrLengthByte tpDestAddrBytes
  let offsetAfterAddress ← calculateIndexAfterTpDestAddr tpdu
  let tpduLenAfterAddress := (tpdu.length : Int) - offsetAfterAddress
  let head ← write tpdu 0 2
  let rest ← write tpdu offsetAfterAddress tpduLenAfterAddress
  return head ++ narrow destAddrLen :: tpDestAddrBytes ++ rest

/-- What comes of the answer to a command: a report to the framework, or a message for
`enqueueAndSendMessageToRL`. -/
inductive Outcome where
  | mismatched
  | failed
  | notAllowed (report : Report)
  | enqueued (param : TpduParam)
  deriving DecidableEq, Repr

/-- The message as it is enqueued, after a modification. -/
def modified (encoders : BcdEncoders) (cmdRes : MoSmsControlCommandResponse) (param : TpduParam) :
    Option TpduParam :=
  let smsc :=
    if isNullOrEmpty cmdRes.rpDestinationAddress then param.smsc
    else (cmdRes.rpDestinationAddress.bind
      encoders.networkPortionToCalledPartyBCDWithLength).map bytesToHexString
  match cmdRes.tpDestinationAddress with
  | none | some [] =>
    some { param with smsc := smsc, destinationAddress := cmdRes.command.tpDestinationAddress }
  | some tpDestAddr => do
    let tpdu ← param.tpdu
    let usatTpdu ← replaceDestination encoders tpdu tpDestAddr
    return { param with tpdu := some usatTpdu, smsc := smsc, destinationAddress := some tpDestAddr }

/-- `onCommandResponse`, with the command that is pending and the message that the map has for the
command of the answer. -/
def onCommandResponse (encoders : BcdEncoders) (mMoSmsCCmd : Option MoSmsControlCommand)
    (mUsatCmdMessageMap : MoSmsControlCommand → Option TpduParam)
    (cmdRes : MoSmsControlCommandResponse) : Outcome :=
  if mMoSmsCCmd ≠ some cmdRes.command then .mismatched
  else
    match mUsatCmdMessageMap cmdRes.command, cmdRes.result with
    | none, _ => .failed
    | some param, .notAllowed =>
      match param.tpdu.bind (·[1]?) with
      | none => .failed
      | some messageRef =>
        .notAllowed
          { token := param.token
            messageRef := messageRef.toNat
            result := .error
            reason := 20
            cause := -1
            isMemoryAvailable := false }
    | some param, .allowed =>
      .enqueued { param with destinationAddress := cmdRes.command.tpDestinationAddress }
    | some param, .allowedWithModification =>
      (modified encoders cmdRes param).elim .failed .enqueued

end UsatBasedSms

end ImsStack.Sms
