import ImsStack.Library.TransitionSystem
import ImsStack.Sms.SmsRPdu
import Mathlib.Logic.Function.Basic

/-!
The state of `SmsTransferLayer` and `SmsRelayLayer`, and what the two have in common:
the controller that takes messages to the native side and the listener through which
the relay layer reports to the transfer layer.  The listeners, the call handler and the
carrier configuration are taken to be set, as they are between `ImsSmsImpl.init` and
`clear`.
-/

namespace ImsStack.Sms

open Platform.Bytes

/-- The tokens of the framework and of the relay layer, of Java type `int`. -/
abbrev Token := Int32

abbrev JavaString := List Char

/-- A null or empty string. -/
def isNullOrEmpty : Option JavaString → Bool
  | none | some [] => true
  | _ => false

/-- `ImsSmsImplBase.SEND_STATUS_*`. -/
inductive SendStatus where
  | ok | error | errorRetry | errorFallback
  deriving DecidableEq, Repr

/-- `MtsController.MO_*`. -/
inductive MoStatus where
  | invalid | success | errorGeneric | errorRetry | errorFallback
  deriving DecidableEq, Repr

/-- The results of the two layers, `SmsUtils.RESULT_SUCCESS` and so on. -/
inductive Result where
  | success
  | rlFailure
  | tlFailure
  | exception
  | mtsControllerFailed
  | pduEncodingFailed
  | invalidSmscAddress
  | queueSizeExceeded
  | tokenDoesNotExist
  | duplicateToken
  | invalidState
  deriving DecidableEq, Repr

/-- `SmsManager.RESULT_ERROR_NONE` and the reasons the state machine reports itself. -/
def resultErrorNone : Int := 0
def resultErrorGenericFailure : Int := 1
def resultNetworkError : Int := 17

/-- `ImsSmsImplBase.DELIVER_STATUS_*`, and the one the relay layer adds. -/
def deliverStatusOk : Int := 1
def deliverStatusErrorGeneric : Int := 2
def deliverStatusErrorNoMemory : Int := 3
def deliverStatusErrorRequestNotSupported : Int := 4
def deliverStatusErrorInvalidMrValue : Int := 5

/-- `SmsRelayLayer::mDeliverCause`. -/
def deliverCause (status : Int) : Option Int :=
  if status = deliverStatusOk then some 0
  else if status = deliverStatusErrorGeneric then some 0x6f
  else if status = deliverStatusErrorNoMemory then some 0x16
  else if status = deliverStatusErrorRequestNotSupported then some 0x61
  else if status = deliverStatusErrorInvalidMrValue then some 0x51
  else none

/-- `SmsTransferLayer::MAX_MESSAGE_COUNT`. -/
def maxMessageCount : Nat := 255

/-- `SmsRelayLayer::MT_TOKEN_MASK`. -/
def mtTokenMask : Token := 0x40000000

/-- What the platform and the configuration answer in the course of one call. -/
structure Environment where
  /-- `getPSIValue`. -/
  psiValue : Option JavaString
  /-- `PhoneNumberUtils.calledPartyBCDToString`; an exception is the outer `none`. -/
  calledPartyBCDToString : Octets → Nat → Int → Option (Option JavaString)
  /-- `MtsController::mUseDialedNumber`. -/
  useDialedNumber : Bool
  /-- `SmsRLStateMachine::getSendStatus`, by the cause and the carrier configuration. -/
  sendStatus : Int → SendStatus
  /-- `SmsRPErrorCause.getSendSmsStatusReasonByRPCauseCode`. -/
  sendStatusReason : Int → Int

/-- A platform that finds no address and no number. -/
def Environment.bare : Environment where
  psiValue := none
  calledPartyBCDToString := fun _ _ _ => some none
  useDialedNumber := false
  sendStatus := fun _ => .error
  sendStatusReason := fun _ => 0

/-- `calledPartyBCDToString` as the parser uses it. -/
def Environment.bcd (env : Environment) : CalledPartyBcd :=
  fun pdu start length => (env.calledPartyBCDToString pdu start length).join

/-- `SmsTransferLayer::TpduParam`. -/
structure TpduParam where
  token : Token
  tpdu : Option Octets
  smsc : Option JavaString
  destinationAddress : Option JavaString
  rpMessageType : RpMessageType
  isRetry : Bool
  deriving DecidableEq, Repr

/-- The states of `SmsRLStateMachine`. -/
inductive SmsRLState where
  | idle | waitForRpAckFromNw | waitToSendRpAckToNw
  deriving DecidableEq, Repr

/-- `SmsRLStateMachine`; of the timers, whether their callback is posted. -/
structure SmsRLStateMachine where
  token : Token
  psiSmsc : Option JavaString
  destinationAddress : Option JavaString
  currentState : SmsRLState
  rpMr : Int
  tpMr : Int
  tr1Posted : Bool
  tr2Posted : Bool
  deriving DecidableEq, Repr

/-- The constructor. -/
def SmsRLStateMachine.new (token : Token) (psiSmsc destinationAddress : Option JavaString) :
    SmsRLStateMachine where
  token := token
  psiSmsc := psiSmsc
  destinationAddress := destinationAddress
  currentState := .idle
  rpMr := 0
  tpMr := 0
  tr1Posted := false
  tr2Posted := false

/-- What the framework is told of a message it has sent. -/
structure Report where
  token : Token
  messageRef : Int
  result : SendStatus
  reason : Int
  cause : Int
  /-- `notifyMemoryAvailableResult` rather than `notifySmsResult`. -/
  isMemoryAvailable : Bool
  deriving DecidableEq, Repr

/-- A message that the native side has taken. -/
structure Sent where
  messageType : RpMessageType
  messageRef : Int
  pdu : Octets
  targetAddress : JavaString
  /-- The state machine of the received message that it answers. -/
  answers : Option Nat
  deriving DecidableEq, Repr

/-- The two layers with what they have said to their surroundings.  The state machines
are numbered in the order of their making. -/
structure SmsStack where
  sendSmsQueue : List Token
  /-- `mTokenMessageMap`, one entry for each token. -/
  tokenMessageMap : List TpduParam
  isSmmaRetry : Bool
  /-- The messages `REQUEST_SEND_NEXT_SMS_TO_RL` that wait for `handleMessage`. -/
  sendNextRequests : List TpduParam
  rpMessageReference : Int32
  mtToken : Token
  moMRTokenMap : Int → Option Token
  mtTokenMRMap : Token → Option Int
  tokenStateTrackerMap : Token → Option Nat
  machine : Nat → SmsRLStateMachine
  machineCount : Nat
  sent : List Sent
  reports : List Report
  /-- The tokens of the messages handed to the relay layer. -/
  handed : List Token

namespace SmsStack

def initial : SmsStack where
  sendSmsQueue := []
  tokenMessageMap := []
  isSmmaRetry := false
  sendNextRequests := []
  rpMessageReference := 0
  mtToken := 0
  moMRTokenMap := fun _ => none
  mtTokenMRMap := fun _ => none
  tokenStateTrackerMap := fun _ => none
  machine := fun _ => .new 0 none none
  machineCount := 0
  sent := []
  reports := []
  handed := []

/-- `mTokenMessageMap.get`. -/
def tokenMessage (s : SmsStack) (token : Token) : Option TpduParam :=
  s.tokenMessageMap.find? (·.token = token)

/-- `mTokenMessageMap.put`. -/
def putTokenMessage (s : SmsStack) (param : TpduParam) : SmsStack :=
  { s with
    tokenMessageMap := s.tokenMessageMap.filter (·.token ≠ param.token) ++ [param] }

/-- `mTokenMessageMap.remove`. -/
def removeTokenMessage (s : SmsStack) (token : Token) : SmsStack :=
  { s with tokenMessageMap := s.tokenMessageMap.filter (·.token ≠ token) }

def setMachine (s : SmsStack) (id : Nat) (m : SmsRLStateMachine) : SmsStack :=
  { s with machine := Function.update s.machine id m }

/-- A new state machine, entered into `mTokenStateTrackerMap`. -/
def addMachine (s : SmsStack) (m : SmsRLStateMachine) : SmsStack :=
  { s with
    machine := Function.update s.machine s.machineCount m
    machineCount := s.machineCount + 1
    tokenStateTrackerMap :=
      Function.update s.tokenStateTrackerMap m.token (some s.machineCount) }

/-- `mTokenStateTrackerMap.remove`. -/
def untrack (s : SmsStack) (token : Token) : SmsStack :=
  { s with tokenStateTrackerMap := Function.update s.tokenStateTrackerMap token none }

theorem machine_setMachine_of_ne (s : SmsStack) {id other : Nat} (m : SmsRLStateMachine)
    (hne : other ≠ id) : (s.setMachine id m).machine other = s.machine other :=
  Function.update_of_ne hne _ _

theorem machine_addMachine_of_lt (s : SmsStack) {id : Nat} (m : SmsRLStateMachine)
    (hlt : id < s.machineCount) : (s.addMachine m).machine id = s.machine id :=
  Function.update_of_ne (Nat.ne_of_lt hlt) _ _

theorem tracker_addMachine_of_ne (s : SmsStack) {token : Token} {m : SmsRLStateMachine}
    (hne : token ≠ m.token) :
    (s.addMachine m).tokenStateTrackerMap token = s.tokenStateTrackerMap token :=
  Function.update_of_ne hne _ _

theorem tracker_untrack_of_ne (s : SmsStack) {token other : Token} (hne : other ≠ token) :
    (s.untrack token).tokenStateTrackerMap other = s.tokenStateTrackerMap other :=
  Function.update_of_ne hne _ _

@[simp] theorem machine_setMachine_self (s : SmsStack) (id : Nat) (m : SmsRLStateMachine) :
    (s.setMachine id m).machine id = m :=
  Function.update_self _ _ _

@[simp] theorem machine_addMachine_self (s : SmsStack) (m : SmsRLStateMachine) :
    (s.addMachine m).machine s.machineCount = m :=
  Function.update_self _ _ _

@[simp] theorem tracker_addMachine_self (s : SmsStack) (m : SmsRLStateMachine) :
    (s.addMachine m).tokenStateTrackerMap m.token = some s.machineCount :=
  Function.update_self _ _ _

@[simp] theorem tracker_untrack_self (s : SmsStack) (token : Token) :
    (s.untrack token).tokenStateTrackerMap token = none :=
  Function.update_self _ _ _

/-- `mMoMRTokenMap.remove`. -/
def removeMoMR (s : SmsStack) (messageReference : Int) : SmsStack :=
  { s with moMRTokenMap := Function.update s.moMRTokenMap messageReference none }

/-- `mMTTokenMRMap.remove`. -/
def removeMtToken (s : SmsStack) (token : Token) : SmsStack :=
  { s with mtTokenMRMap := Function.update s.mtTokenMRMap token none }

/-- `MtsController::sendMessage` takes the message to the native side unless an address
is missing.  When it refuses it also posts a failure of the message reference to the
relay layer, which may at any time come from the native side as well. -/
def sendMessage (s : SmsStack) (env : Environment) (messageType : RpMessageType)
    (messageRef : Int) (pdu : Octets) (psiSmsc dialedNumber : Option JavaString)
    (answers : Option Nat) : Bool × SmsStack :=
  match (if env.useDialedNumber && psiSmsc.isSome then dialedNumber else psiSmsc) with
  | none => (false, s)
  | some targetAddress =>
    (true, { s with
      sent := s.sent ++ [⟨messageType, messageRef, pdu, targetAddress, answers⟩] })

theorem sendMessage_machine (s : SmsStack) (env : Environment) (messageType : RpMessageType)
    (messageRef : Int) (pdu : Octets) (psiSmsc dialedNumber : Option JavaString)
    (answers : Option Nat) :
    (s.sendMessage env messageType messageRef pdu psiSmsc dialedNumber answers).2.machine =
      s.machine := by
  simp only [sendMessage]
  split <;> rfl

/-- The posting of `REQUEST_SEND_NEXT_SMS_TO_RL` at the end of
`notifyRLReportIndication`. -/
def requestSendNext (s : SmsStack) : SmsStack :=
  match s.sendSmsQueue.head? with
  | none => s
  | some nextToken =>
    match s.tokenMessage nextToken with
    | none => s
    | some param => { s with sendNextRequests := s.sendNextRequests ++ [param] }

/-- `SmsRLListenerProxy::notifyRLReportIndication`. -/
def notifyRLReportIndication (s : SmsStack) (token : Token) (messageRef : Int)
    (result : SendStatus) (reason causeCode : Int) : SmsStack :=
  let report (isMemoryAvailable : Bool) : Report :=
    ⟨token, messageRef, result, reason, causeCode, isMemoryAvailable⟩
  match s.tokenMessage token with
  | none => { s with reports := s.reports ++ [report false] }.requestSendNext
  | some param =>
    let isMemoryAvailable := param.rpMessageType == .rpSmma
    { s.removeTokenMessage token with
      sendSmsQueue := s.sendSmsQueue.erase token
      reports := s.reports ++ [report isMemoryAvailable]
      isSmmaRetry :=
        if isMemoryAvailable then decide (result = SendStatus.errorRetry) && !s.isSmmaRetry
        else s.isSmmaRetry }.requestSendNext

end SmsStack

end ImsStack.Sms
