import ImsStack.Sms.SmsStack

/-!
The state machine of the relay layer, the entries of `SmsRelayLayer` and the send queue
of `SmsTransferLayer`.  A method that ends in an exception has the result `none`; what
it has changed until then stays.
-/

namespace ImsStack.Sms

open Platform.Bytes TransitionSystem

namespace SmsStack

/-! ### `SmsRLStateMachine` -/

def onRPDataFromTL (s : SmsStack) (env : Environment) (id : Nat) (moRPData : SmsRPdu) :
    Option Result × SmsStack :=
  match (s.machine id).currentState with
  | .idle =>
    match moRPData.userData.map (·[1]?) with
    | some none => (none, s)
    | tpMr =>
      let m := s.machine id
      let m := { m with tpMr := (tpMr.join.map (Int.ofNat ·.toNat)).getD m.tpMr }
      match moRPData.rpdu with
      | none => (some .pduEncodingFailed, s.setMachine id m)
      | some encodedPdu =>
        let (taken, s) := s.sendMessage env moRPData.messageType moRPData.messageRef encodedPdu
          m.psiSmsc m.destinationAddress none
        if !taken then (some .mtsControllerFailed, s.setMachine id m)
        else
          (some .success,
            s.setMachine id { m with currentState := .waitForRpAckFromNw, tr1Posted := true })
  | _ => (some .invalidState, s)

def onRPAckFromNetwork (s : SmsStack) (id : Nat) : SmsStack :=
  let m := s.machine id
  match m.currentState with
  | .waitForRpAckFromNw =>
    (s.notifyRLReportIndication m.token m.tpMr .ok resultErrorNone 0).setMachine id
      { m with tr1Posted := false, currentState := .idle }
  | _ => s

def onRPErrorFromNetwork (s : SmsStack) (env : Environment) (id : Nat) (moRPError : SmsRPdu) :
    SmsStack :=
  let m := s.machine id
  match m.currentState with
  | .waitForRpAckFromNw =>
    let causeCode := moRPError.getRPCause
    (s.notifyRLReportIndication m.token m.tpMr (env.sendStatus causeCode)
      (env.sendStatusReason causeCode) causeCode).setMachine id
      { m with tr1Posted := false, currentState := .idle }
  | _ => s

/-- `onTR1TimerExpired`, when the posted callback runs. -/
def onTR1TimerExpired (s : SmsStack) (id : Nat) : SmsStack :=
  let m := { s.machine id with tr1Posted := false }
  match m.currentState with
  | .waitForRpAckFromNw =>
    (s.notifyRLReportIndication m.token m.tpMr .errorRetry resultErrorGenericFailure 0).setMachine
      id { m with currentState := .idle }
  | _ => s.setMachine id m

def onSipResponseForRPMessage (s : SmsStack) (id : Nat) (isSuccess : Bool)
    (status : SendStatus) : SmsStack :=
  let m := s.machine id
  match m.currentState with
  | .waitForRpAckFromNw =>
    if isSuccess then s
    else
      (s.notifyRLReportIndication m.token m.tpMr status resultNetworkError 0).setMachine id
        { m with tr1Posted := false, currentState := .idle }
  | _ => s

/-- What the framework is given of a received RP-DATA: the originating address with its
length, and the user data.  The length is a signed octet. -/
def frameworkPdu (rpdu tpdu : Octets) : Option Octets := do
  let originAddressLength ← rpdu[2]?
  let length := originAddressLength.toNat
  if 128 ≤ length ∨ rpdu.length < 3 + length then none
  else some (originAddressLength :: (rpdu.drop 3).take length ++ tpdu)

/-- `onRPDataFromNetwork`, with the answer of `notifyRLDataIndication`. -/
def onRPDataFromNetwork (s : SmsStack) (id : Nat) (mtRPData : SmsRPdu)
    (listenerResult : Result) : Option Result × SmsStack :=
  let m := s.machine id
  match m.currentState with
  | .idle =>
    let m := { m with rpMr := mtRPData.messageRef }
    let indicated := do
      let tpdu ← mtRPData.userData
      let _ ← frameworkPdu (mtRPData.rpdu.getD []) tpdu
      tpdu[1]?
    match indicated with
    | none => (none, s.setMachine id m)
    | some tpMr =>
      let m := { m with
        tpMr := tpMr.toNat
        destinationAddress := mtRPData.origAddr }
      if listenerResult ≠ .success then (some .tlFailure, s.setMachine id m)
      else
        (some .success,
          s.setMachine id { m with currentState := .waitToSendRpAckToNw, tr2Posted := true })
  | _ => (some .invalidState, s)

/-- `onRPAckFromTL`; the state machine stays where it is. -/
def onRPAckFromTL (s : SmsStack) (env : Environment) (id : Nat) (mtRPAck : SmsRPdu) :
    Result × SmsStack :=
  let m := s.machine id
  match m.currentState, mtRPAck.rpdu with
  | .waitToSendRpAckToNw, some encodedPdu =>
    let (taken, s) := s.sendMessage env mtRPAck.messageType mtRPAck.messageRef encodedPdu
      m.psiSmsc m.destinationAddress (some id)
    if !taken then (.invalidState, s)
    else (.success, s.setMachine id { m with tr2Posted := false })
  | _, _ => (.invalidState, s)

def onRPErrorFromTL (s : SmsStack) (env : Environment) (id : Nat) (mtRPError : SmsRPdu) :
    Result × SmsStack :=
  let m := s.machine id
  match m.currentState, mtRPError.rpdu with
  | .waitToSendRpAckToNw, some encodedPdu =>
    let (taken, s) := s.sendMessage env mtRPError.messageType mtRPError.messageRef encodedPdu
      m.psiSmsc m.destinationAddress (some id)
    if !taken then (.mtsControllerFailed, s)
    else (.success, s.setMachine id { m with tr2Posted := false, currentState := .idle })
  | .waitToSendRpAckToNw, none => (.pduEncodingFailed, s)
  | _, _ => (.invalidState, s)

/-- `onTR2TimerExpired`, when the posted callback runs. -/
def onTR2TimerExpired (s : SmsStack) (id : Nat) : SmsStack :=
  let m := { s.machine id with tr2Posted := false }
  match m.currentState with
  | .waitToSendRpAckToNw => s.setMachine id { m with currentState := .idle }
  | _ => s.setMachine id m

/-! ### `SmsRelayLayer` -/

/-- `decodeSmsc`; the outer `none` is an exception. -/
def decodeSmsc (env : Environment) (smsc : JavaString) : Option (Option JavaString) := do
  let targetAddrBytes ← hexStringToBytes smsc
  let length ← targetAddrBytes.head?
  env.calledPartyBCDToString targetAddrBytes 1 length.toInt8.toInt

/-- The target and the destination address that `sendRPMessage` works out for a message
that is sent; the outer `none` is an exception. -/
def addresses (env : Environment) (rpType : RpMessageType) (smsc : JavaString)
    (destinationAddress : Option JavaString) :
    Option (Option JavaString × Option JavaString) := do
  let targetAddress ←
    if !isNullOrEmpty env.psiValue then some env.psiValue
    else if rpType = .rpSmma then some (some smsc)
    else decodeSmsc env smsc
  let targetAddress := if isNullOrEmpty targetAddress then destinationAddress else targetAddress
  some (targetAddress,
    if isNullOrEmpty destinationAddress then targetAddress else destinationAddress)

/-- `getRPMessageReference`. -/
def nextRpMessageReference (s : SmsStack) : Int := ((s.rpMessageReference + 1) % 256).toInt

/-- `sendRPMessage` for RP-DATA and RP-SMMA, whose cause is not used. -/
def sendMoMessage (s : SmsStack) (env : Environment) (param : TpduParam) : Result × SmsStack :=
  if isNullOrEmpty param.smsc then (.invalidSmscAddress, s)
  else
    match addresses env param.rpMessageType (param.smsc.getD []) param.destinationAddress with
    | none => (.exception, s)
    | some (targetAddress, destinationAddress) =>
      let rpMR := s.nextRpMessageReference
      let s := { s with
        rpMessageReference := s.rpMessageReference + 1
        moMRTokenMap := Function.update s.moMRTokenMap rpMR (some param.token) }
      match SmsRPdu.new rpMR param.rpMessageType param.smsc 0x6f param.tpdu param.isRetry with
      | none => (.exception, s)
      | some moRPDataPdu =>
        let id := s.machineCount
        let s := s.addMachine (.new param.token targetAddress destinationAddress)
        let (result, s) := s.onRPDataFromTL env id moRPDataPdu
        (result.getD .exception, s)

/-- `sendRPMessage` for RP-ACK and RP-ERROR. -/
def sendMtReport (s : SmsStack) (env : Environment) (token : Token) (rpType : RpMessageType)
    (tpdu : Option Octets) (statusResult : Int) : Result × SmsStack :=
  match s.mtTokenMRMap token with
  | none => (.tokenDoesNotExist, s)
  | some rpMR =>
    let s := s.removeMtToken token
    let rpCause := (deliverCause statusResult).getD 0x6f
    match SmsRPdu.new rpMR rpType none rpCause tpdu false, s.tokenStateTrackerMap token with
    | some report, some id =>
      let (result, s) :=
        if rpType = .rpAck then s.onRPAckFromTL env id report
        else s.onRPErrorFromTL env id report
      (result, s.untrack token)
    | _, _ => (.exception, s)

def sendRPError (s : SmsStack) (env : Environment) (deliverStatusResult : Int)
    (mtData : SmsRPdu) (targetAddress : Option JavaString) (answers : Option Nat) : SmsStack :=
  let encoded := do
    let rpCause ← deliverCause deliverStatusResult
    let rpErrorPdu ← SmsRPdu.new mtData.messageRef .rpError mtData.origAddr rpCause none false
    rpErrorPdu.rpdu
  match encoded with
  | none => s
  | some pdu =>
    (s.sendMessage env .rpError mtData.messageRef pdu targetAddress mtData.origAddr answers).2

def notifyStatusForOutgoingMessage (s : SmsStack) (statusResult : MoStatus)
    (messageReference : Int) : SmsStack :=
  if statusResult = .success then s
  else
    match s.moMRTokenMap messageReference with
    | none => s
    | some token =>
      let s := s.removeMoMR messageReference
      let status : SendStatus :=
        match statusResult with
        | .errorRetry => .errorRetry
        | .errorFallback => .errorFallback
        | _ => .error
      let machine := s.tokenStateTrackerMap token
      let s := s.untrack token
      match machine with
      | none => s
      | some id => s.onSipResponseForRPMessage id false status

/-- `notifyIncomingMessage` for an RP-ACK or RP-ERROR that is looked up in
`mMoMRTokenMap`. -/
def onReportFromNetwork (s : SmsStack) (messageRef : Int) (token : Token)
    (onReport : SmsStack → Nat → SmsStack) : SmsStack :=
  let s := s.removeMoMR messageRef
  match s.tokenStateTrackerMap token with
  | none => s
  | some id => (onReport s id).untrack token

/-- `notifyIncomingMessage` for an RP-DATA, to which the listener has an answer. -/
def onDataFromNetwork (s : SmsStack) (env : Environment) (mtData : SmsRPdu)
    (targetAddress : Option JavaString) (listenerResult : Result) : SmsStack :=
  let token := (s.mtToken + 1) ||| mtTokenMask
  let id := s.machineCount
  let s := { s with
    mtToken := s.mtToken + 1
    mtTokenMRMap := Function.update s.mtTokenMRMap token (some mtData.messageRef) }
  let s := s.addMachine (.new token targetAddress mtData.origAddr)
  match s.onRPDataFromNetwork id mtData listenerResult with
  | (none, s) => s
  | (some result, s) =>
    if result ≠ .success then
      ((s.sendRPError env deliverStatusErrorGeneric mtData targetAddress (some id)).removeMtToken
        token).untrack token
    else s

/-- `notifyIncomingMessage` in the format of 3GPP. -/
def notifyIncomingMessage (s : SmsStack) (env : Environment) (pduData : Octets)
    (listenerResult : Result) : SmsStack :=
  match SmsRPdu.parsePdu env.bcd pduData with
  | none => s
  | some mtData =>
    let targetAddress := if isNullOrEmpty env.psiValue then mtData.origAddr else env.psiValue
    match mtData.messageType with
    | .rpAck =>
      match s.moMRTokenMap mtData.messageRef with
      | none => s.sendRPError env deliverStatusErrorInvalidMrValue mtData targetAddress none
      | some token => s.onReportFromNetwork mtData.messageRef token onRPAckFromNetwork
    | .rpError =>
      match s.moMRTokenMap mtData.messageRef with
      | none => s
      | some token =>
        s.onReportFromNetwork mtData.messageRef token
          fun s id => s.onRPErrorFromNetwork env id mtData
    | .rpData => s.onDataFromNetwork env mtData targetAddress listenerResult
    | .rpSmma =>
      s.sendRPError env deliverStatusErrorRequestNotSupported mtData targetAddress none

/-! ### `SmsTransferLayer` -/

/-- `sendRPMessage` as the transfer layer calls it. -/
def handOver (s : SmsStack) (env : Environment) (param : TpduParam) : Result × SmsStack :=
  { s with handed := s.handed ++ [param.token] }.sendMoMessage env param

def enqueueAndSendMessageToRL (s : SmsStack) (env : Environment) (param : TpduParam) :
    Result × SmsStack :=
  if maxMessageCount < s.tokenMessageMap.length then (.queueSizeExceeded, s)
  else if s.sendSmsQueue.isEmpty then
    let s := { s with sendSmsQueue := s.sendSmsQueue ++ [param.token] }
    (s.putTokenMessage param).handOver env param
  else if (s.tokenMessage param.token).isSome then (.duplicateToken, s)
  else
    let s := s.putTokenMessage param
    (.success, { s with sendSmsQueue := s.sendSmsQueue ++ [param.token] })

/-- `MessageHandler::handleMessage` with the next message of its queue. -/
def handleMessage (s : SmsStack) (env : Environment) : SmsStack :=
  match s.sendNextRequests with
  | [] => s
  | param :: rest => ({ s with sendNextRequests := rest }.handOver env param).2

/-- `sendReportTPdu`, with the report that is given or generated. -/
def sendReportTPdu (s : SmsStack) (env : Environment) (token : Token) (result : Int)
    (deliverReportPdu : Option Octets) : Result × SmsStack :=
  let messageType := if result = deliverStatusOk then .rpAck else .rpError
  s.sendMtReport env token messageType deliverReportPdu result

/-- `sendMoTPdu` when no USAT control is in the way; the recipient is what the platform
reads in the TPDU. -/
def sendMoTPdu (s : SmsStack) (env : Environment) (token : Token) (pdu : Octets)
    (smsc recipient : Option JavaString) (isRetry : Bool) : Result × SmsStack :=
  s.enqueueAndSendMessageToRL env ⟨token, some pdu, smsc, recipient, .rpData, isRetry⟩

def sendMemoryAvailabilityNotification (s : SmsStack) (env : Environment) (token : Token)
    (smsc : Option JavaString) : Result × SmsStack :=
  s.enqueueAndSendMessageToRL env ⟨token, none, smsc, smsc, .rpSmma, s.isSmmaRetry⟩

end SmsStack

/-! ### Runs -/

/-- What can happen to the two layers. -/
inductive Event where
  | sendMoTPdu (env : Environment) (token : Token) (pdu : Octets)
      (smsc recipient : Option JavaString) (isRetry : Bool)
  | sendMemoryAvailabilityNotification (env : Environment) (token : Token)
      (smsc : Option JavaString)
  | handleMessage (env : Environment)
  | notifyIncomingMessage (env : Environment) (pduData : Octets) (listenerResult : Result)
  | notifyStatusForOutgoingMessage (statusResult : MoStatus) (messageReference : Int)
  | tr1TimerExpired (id : Nat)
  | tr2TimerExpired (id : Nat)
  | sendReportTPdu (env : Environment) (token : Token) (result : Int)
      (deliverReportPdu : Option Octets)

/-- The layers with the tokens whose request was answered `RESULT_SUCCESS`. -/
structure Run where
  stack : SmsStack
  answered : List Token

/-- The answer to a request is noted. -/
def Run.answer (r : Run) (token : Token) (verdict : Result × SmsStack) : Run where
  stack := verdict.2
  answered := if verdict.1 = .success then r.answered ++ [token] else r.answered

/-- The step relation; each entry runs under the locks of the layers. -/
inductive SmsStep : Run → Event → Run → Prop where
  | sendMoTPdu {r : Run} {env : Environment} {token : Token} {pdu : Octets}
      {smsc recipient : Option JavaString} {isRetry : Bool} :
      SmsStep r (.sendMoTPdu env token pdu smsc recipient isRetry)
        (r.answer token (r.stack.sendMoTPdu env token pdu smsc recipient isRetry))
  | sendMemoryAvailabilityNotification {r : Run} {env : Environment} {token : Token}
      {smsc : Option JavaString} :
      SmsStep r (.sendMemoryAvailabilityNotification env token smsc)
        (r.answer token (r.stack.sendMemoryAvailabilityNotification env token smsc))
  | handleMessage {r : Run} {env : Environment} :
      SmsStep r (.handleMessage env) { r with stack := r.stack.handleMessage env }
  | notifyIncomingMessage {r : Run} {env : Environment} {pduData : Octets}
      {listenerResult : Result} :
      SmsStep r (.notifyIncomingMessage env pduData listenerResult)
        { r with stack := r.stack.notifyIncomingMessage env pduData listenerResult }
  | notifyStatusForOutgoingMessage {r : Run} {statusResult : MoStatus}
      {messageReference : Int} :
      SmsStep r (.notifyStatusForOutgoingMessage statusResult messageReference)
        { r with stack := r.stack.notifyStatusForOutgoingMessage statusResult messageReference }
  | tr1TimerExpired {r : Run} {id : Nat} : (r.stack.machine id).tr1Posted = true →
      SmsStep r (.tr1TimerExpired id) { r with stack := r.stack.onTR1TimerExpired id }
  | tr2TimerExpired {r : Run} {id : Nat} : (r.stack.machine id).tr2Posted = true →
      SmsStep r (.tr2TimerExpired id) { r with stack := r.stack.onTR2TimerExpired id }
  | sendReportTPdu {r : Run} {env : Environment} {token : Token} {result : Int}
      {deliverReportPdu : Option Octets} :
      SmsStep r (.sendReportTPdu env token result deliverReportPdu)
        { r with stack := (r.stack.sendReportTPdu env token result deliverReportPdu).2 }

/-- The runs from the layers as they are made. -/
def smsRuns : System Run Event where
  Init r := r = ⟨.initial, []⟩
  Step := SmsStep

end ImsStack.Sms
