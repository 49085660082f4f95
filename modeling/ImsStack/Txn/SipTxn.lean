import Mathlib.Algebra.Group.Int.Defs
import Mathlib.Algebra.Group.Nat.Defs
import Mathlib.Data.Bool.Basic
import Mathlib.Data.List.Basic
import Mathlib.Data.Option.Basic

/-!
The data of a SIP transaction and the operations its state machines share: the
transaction key and the list of keys of reliable provisional responses, the
timer values, the single timer slot, and the callback of an expired timer.
-/

namespace ImsStack.Txn

/-- The bytes of a header value or parameter. -/
abbrev SipChars := List Char

/-- Reduction of a sum or product to the 32 bits of `SIP_UINT32`. -/
def uint32 (n : Nat) : Nat := n % 2 ^ 32

/-- Reduction to the 16 bits of `SIP_UINT16`. -/
def uint16 (n : Nat) : Nat := n % 2 ^ 16

/-- The types of transaction, `SipTxn::INVITE_CLIENT` and so on. -/
inductive TxnType where
  | inviteClient
  | inviteServer
  | nonInviteClient
  | nonInviteServer
  deriving DecidableEq, Repr

/-- The timer types of `SipTxn`. -/
inductive TimerType where
  | timerT1 | timerT2 | timerT4
  | timerA | timerB | timerC | timerD | timerE | timerF | timerG | timerH
  | timerI | timerJ | timerK | timerL | timerM
  | timerOther | timerTypeInvalid
  deriving DecidableEq, Repr

/-- The status a state machine reports for a received message. -/
inductive TxnStatus where
  | newReqRecvd | validMessage | ignoreReq | ignoreResp | strayResp
  | retransmission | errorOnSend | invalidMessage | strayPrack
  | ackRetransmission | invalid
  deriving DecidableEq, Repr

/-- `SipTransportInfo::PROTOCOL_*`. -/
inductive TranspProtocol where
  | tcp | udp | tls | sctp | others | invalid
  deriving DecidableEq, Repr

/-- `SipPf_Strcmp(a, b) == SIP_EQUALS`; a null string equals nothing. -/
def strcmpEquals : Option SipChars → Option SipChars → Bool
  | some a, some b => decide (a = b)
  | _, _ => false

/-- `SipPf_Stricmp(a, b) == SIP_EQUALS`. -/
def stricmpEquals : Option SipChars → Option SipChars → Bool
  | some a, some b => decide (a.map Char.toLower = b.map Char.toLower)
  | _, _ => false

def methodInvite : SipChars := ['I', 'N', 'V', 'I', 'T', 'E']
def methodAck : SipChars := ['A', 'C', 'K']
def methodCancel : SipChars := ['C', 'A', 'N', 'C', 'E', 'L']

/-- `SipTxnKey::m_nRules`, one flag for each bit. -/
structure KeyRules where
  compareToTag : Bool
  compareViaBranch : Bool
  compareRSeq : Bool
  deriving DecidableEq, Repr

/-- `SipTxnKey`: what a message is matched to a transaction by. -/
structure SipTxnKey where
  rSeqNum : Nat
  viaBranchParam : Option SipChars
  viaHost : Option SipChars
  method : Option SipChars
  cSeqNum : Nat
  toTag : Option SipChars
  fromTag : Option SipChars
  callId : Option SipChars
  respCode : Nat
  txnType : Option TxnType
  rules : KeyRules
  deriving DecidableEq, Repr

namespace SipTxnKey

/-- The copy constructor; `none` is the error code it reports when one of the
strings a key cannot do without is null. -/
def copy (key : SipTxnKey) : Option SipTxnKey :=
  if key.viaBranchParam.isSome && key.viaHost.isSome && key.method.isSome &&
      key.fromTag.isSome && key.callId.isSome then
    some key
  else none

/-- `SipMsgUtil::IsSuccessfulResponse`. -/
def isSuccessfulResponse (code : Nat) : Bool := decide (200 ≤ code ∧ code < 300)

/-- `SipTxnKey::CompareKeys`, the stored key first. -/
def compareKeys (stored generated : SipTxnKey) : Bool :=
  let isAckForSuccessfulInvite :=
    strcmpEquals (some methodAck) generated.method &&
      generated.txnType == some .inviteServer && stored.txnType == some .inviteServer &&
      isSuccessfulResponse stored.respCode
  let isAck := strcmpEquals (some methodAck) generated.method
  generated.txnType == stored.txnType &&
  (!generated.rules.compareViaBranch ||
    stricmpEquals stored.viaBranchParam generated.viaBranchParam ||
    isAckForSuccessfulInvite) &&
  stored.cSeqNum == generated.cSeqNum &&
  (if isAck then !strcmpEquals stored.method (some methodCancel)
    else strcmpEquals stored.method generated.method) &&
  strcmpEquals stored.callId generated.callId &&
  stricmpEquals stored.fromTag generated.fromTag &&
  (!(stored.rules.compareToTag && generated.rules.compareToTag &&
      stored.toTag.isSome && generated.toTag.isSome) ||
    stricmpEquals stored.toTag generated.toTag) &&
  (!(generated.rules.compareRSeq && stored.rSeqNum != 0 && generated.rSeqNum != 0) ||
    stored.rSeqNum == generated.rSeqNum)

/-- `SipTxnKey::CompareKeysForRPR`, the stored key first. -/
def compareKeysForRPR (stored generated : SipTxnKey) : Bool :=
  strcmpEquals stored.method (some methodInvite) &&
  strcmpEquals stored.callId generated.callId &&
  stricmpEquals stored.fromTag generated.fromTag &&
  (!(generated.rules.compareToTag && stored.toTag.isSome && generated.toTag.isSome) ||
    stricmpEquals stored.toTag generated.toTag) &&
  (!(generated.rules.compareRSeq && stored.rSeqNum != 0 && generated.rSeqNum != 0) ||
    stored.rSeqNum == generated.rSeqNum)

end SipTxnKey

/-- `SipTxnUtil::SearchTxnKey`.  The loop index is a `SIP_UINT16`, so only the
first 2^16 entries are ever looked at; when there are as many and none matches, the
loop of the source goes round for ever. -/
def searchTxnKey (keys : List SipTxnKey) (userKey : SipTxnKey) (checkRSeq : Bool := true) :
    Option SipTxnKey :=
  (keys.take (2 ^ 16)).find? fun stored =>
    stored.compareKeysForRPR { userKey with rules := ⟨true, false, checkRSeq⟩ }

/-- `SipTxnUtil::DeleteTxnKey`: every stored key that matches goes. -/
def deleteTxnKey (keys : List SipTxnKey) (userKey : SipTxnKey) (checkToTag : Bool := false) :
    List SipTxnKey :=
  keys.filter fun stored =>
    !stored.compareKeysForRPR { userKey with rules := ⟨checkToTag, false, false⟩ }

/-- `SipTxnUtil::AddTxnKey`. -/
def addTxnKey (keys : List SipTxnKey) (key : SipTxnKey) : List SipTxnKey := keys ++ [key]

/-- What the state machines read of a SIP message: its key, its status code, the
value of its RSeq header when it has one, and for a PRACK request the number in
its RAck header. -/
structure SipMessage where
  txnKey : SipTxnKey
  statusCode : Nat
  rSeq : Option Nat
  prackRAck : Option Nat
  deriving DecidableEq, Repr

/-- `HasHeader(SipHeaderBase::RSEQ)`. -/
def SipMessage.hasRSeq (msg : SipMessage) : Bool := msg.rSeq.isSome

/-- `SipTxnKey(SipMessage*, ..)` for a response; its transaction type stays
invalid, and RSeq is taken over. -/
def SipMessage.makeKey (msg : SipMessage) : SipTxnKey :=
  { msg.txnKey with
    rSeqNum := msg.rSeq.getD 0
    txnType := none
    rules := ⟨true, true, false⟩ }

/-- `SipTxnTimerValues`: the duration of every timer, in milliseconds. -/
structure SipTxnTimerValues where
  getTimerValue : TimerType → Nat

/-- `SipTimerValues` as `SipTimerValuesHelper::GetValues` fills them: every
value is a signed 32-bit integer. -/
structure SipTimerValues where
  getValue : TimerType → BitVec 32

/-- No timer is switched off: every value is strictly positive as a signed
integer. -/
def SipTimerValues.Positive (values : SipTimerValues) : Prop :=
  ∀ timer, 0 < (values.getValue timer).toInt

/-- The values as the transaction layer takes them over, unsigned. -/
def SipTimerValues.toTxnTimerValues (values : SipTimerValues) : SipTxnTimerValues where
  getTimerValue timer := (values.getValue timer).toNat

/-- `SipTimerContext`: new timer values and the mask of those that are set. -/
structure SipTimerContext where
  timerOptions : TimerType → Bool
  txnSipTxnTimers : SipTxnTimerValues

/-- `SipTxnTimerValues::UpdateSipTimers`. -/
def SipTxnTimerValues.updateSipTimers (values : SipTxnTimerValues) (context : SipTimerContext) :
    SipTxnTimerValues where
  getTimerValue timer :=
    if context.timerOptions timer then context.txnSipTxnTimers.getTimerValue timer
    else values.getTimerValue timer

/-- `SipTxn`, with the states `σ` of its type of transaction. -/
structure SipTxn (σ : Type) where
  txnKey : SipTxnKey
  txnState : σ
  retransmissionCount : Nat
  timerType : TimerType
  timerId : Option Nat
  maxDuration : Nat
  durationExpired : Nat
  currentDuration : Nat
  rprTxnTerminated : Bool
  ackReceived : Bool
  txnTimerValues : SipTxnTimerValues
  transpInfo : Option TranspProtocol
  refCount : Int

/-- A timer the platform runs for the transaction, with its timeout data. -/
structure RunningTimer where
  id : Nat
  timerType : TimerType
  deriving DecidableEq, Repr

/-- One transaction together with the parts of the stack its state machine
works on: the transaction pool, the global list of keys of reliable provisional
responses and the platform's timers. -/
structure SipStack (σ : Type) where
  txn : SipTxn σ
  inTxnPool : Bool
  txnKeyList : List SipTxnKey
  runningTimers : List RunningTimer
  nextTimerId : Nat

/-- The out-fields of `SipTxnFsmData`. -/
structure SipTxnFsmOut where
  txnStatus : TxnStatus := .invalid
  txnTerminated : Bool := false
  txnCreated : Bool := false
  /-- An ACK request has been prepared in `m_pSendSipMsg`. -/
  sendSipMsg : Bool := false
  /-- The last message sent is handed out for retransmission. -/
  transpInfo : Option TranspProtocol := none
  deriving DecidableEq, Repr

/-- The in-fields of `SipTxnFsmData`, and the answers of the transaction pool
the actions ask: whether it takes the new transaction, and whether it holds the
INVITE transaction a PRACK request acknowledges a response of. -/
structure SipTxnFsmData where
  sipMsgIn : SipMessage
  transpProtocol : TranspProtocol
  poolAccepts : Bool
  inviteTxnFetched : Bool

/-- What an action function leaves: its result, the stack and its out-fields. -/
structure FsmResult (σ : Type) where
  ok : Bool
  stack : SipStack σ
  out : SipTxnFsmOut := {}

/-- What `StartTxnTimer` calls at once for a timer of duration zero. -/
abbrev ImmediateTimeout (σ : Type) := TimerType → SipStack σ → SipStack σ

namespace SipTxn

variable {σ : Type}

def setTxnState (txn : SipTxn σ) (state : σ) : SipTxn σ := { txn with txnState := state }

def setMaxDuration (txn : SipTxn σ) (duration : Nat) : SipTxn σ :=
  { txn with maxDuration := duration }

def setCurrentDuration (txn : SipTxn σ) (duration : Nat) : SipTxn σ :=
  { txn with currentDuration := duration }

def increaseDurationExpired (txn : SipTxn σ) (duration : Nat) : SipTxn σ :=
  { txn with durationExpired := uint32 (txn.durationExpired + duration) }

def increaseTxnCount (txn : SipTxn σ) : SipTxn σ :=
  { txn with retransmissionCount := uint16 (txn.retransmissionCount + 1) }

def initRetransmissionInfo (txn : SipTxn σ) : SipTxn σ :=
  { txn with
    retransmissionCount := 0
    maxDuration := 0
    durationExpired := 0
    currentDuration := 0 }

def setRprTxnTerminated (txn : SipTxn σ) (terminated : Bool) : SipTxn σ :=
  { txn with rprTxnTerminated := terminated }

def setAckReceived (txn : SipTxn σ) (received : Bool) : SipTxn σ :=
  { txn with ackReceived := received }

/-- `GetMsgSentProto`: invalid until a message has been handed to a transport. -/
def getMsgSentProto (txn : SipTxn σ) : TranspProtocol := txn.transpInfo.getD .invalid

def getTimerValue (txn : SipTxn σ) (timer : TimerType) : Nat :=
  txn.txnTimerValues.getTimerValue timer

end SipTxn

/-- The references the pool holds: that of its `SipStackTransaction`, and the one
the action that opens the transaction takes for it. -/
def poolReferences : Int := 2

namespace SipStack

variable {σ : Type}

/-- The same stack with the transaction changed. -/
def mapTxn (s : SipStack σ) (f : SipTxn σ → SipTxn σ) : SipStack σ := { s with txn := f s.txn }

/-- `SipTxn::StartTxnTimer`.  A platform timer is started and its id put in the
slot, whatever the slot held; a duration of zero expires at once instead. -/
def startTxnTimer (immediate : ImmediateTimeout σ) (timer : TimerType) (duration : Nat)
    (s : SipStack σ) : SipStack σ :=
  if 0 < duration then
    { s with
      txn := { s.txn with
        timerId := some s.nextTimerId
        timerType := timer
        currentDuration := duration }
      runningTimers := s.runningTimers ++ [⟨s.nextTimerId, timer⟩]
      nextTimerId := s.nextTimerId + 1 }
  else
    immediate timer
      { s with txn := { s.txn with
        timerType := timer
        currentDuration := duration
        timerId := none } }

/-- `SipTxn::StopTxnTimer`. -/
def stopTxnTimer (s : SipStack σ) : SipStack σ :=
  match s.txn.timerId with
  | none => s
  | some id =>
    { s with
      txn := { s.txn with timerId := none }
      runningTimers := s.runningTimers.filter (·.id ≠ id) }

/-- `nDurationExpired` as the actions of the retransmission timers begin: the
first expiry is that of a timer that ran for T1. -/
def firstDurationExpired (s : SipStack σ) : Nat :=
  if s.txn.durationExpired = 0 then s.txn.getTimerValue .timerT1 else s.txn.durationExpired

/-- What the same lines leave in the transaction. -/
def countFirstExpiry (s : SipStack σ) : SipStack σ :=
  if s.txn.durationExpired = 0 then
    s.mapTxn (·.increaseDurationExpired (s.txn.getTimerValue .timerT1))
  else s

/-- `SipTxnUtil::DeleteTxnKey(pTxn->GetTxnKey(), ..)` on the global list. -/
def deleteKeys (s : SipStack σ) (key : SipTxnKey) (checkToTag : Bool := false) : SipStack σ :=
  { s with txnKeyList := deleteTxnKey s.txnKeyList key checkToTag }

def addKey (s : SipStack σ) (key : SipTxnKey) : SipStack σ :=
  { s with txnKeyList := addTxnKey s.txnKeyList key }

/-- `SipTxn_RemoveFromTxnPool`: the pool gives its references back. -/
def removeFromTxnPool (s : SipStack σ) : SipStack σ :=
  if s.inTxnPool then
    { s with
      inTxnPool := false
      txn := { s.txn with refCount := s.txn.refCount - poolReferences } }
  else s

/-- `SipRefBase::Increment` on the transaction. -/
def increment (s : SipStack σ) : SipStack σ :=
  s.mapTxn fun txn => { txn with refCount := txn.refCount + 1 }

/-- The pool takes the transaction and its references to it. -/
def addToTxnPool (s : SipStack σ) : SipStack σ :=
  { s with inTxnPool := true }.mapTxn fun txn =>
    { txn with refCount := txn.refCount + poolReferences }

/-- `SipRefBase::SipDelete` on the transaction. -/
def sipDelete (s : SipStack σ) : SipStack σ :=
  s.mapTxn fun txn => { txn with refCount := txn.refCount - 1 }

end SipStack

/-- How the actions of the retransmission timers end: the timer is started again,
unless no duration is left. -/
def restartTimer {σ : Type} (immediate : ImmediateTimeout σ) (timer : TimerType)
    (nDuration : Nat) (s : SipStack σ) : FsmResult σ :=
  if 0 < nDuration then
    let s := s.startTxnTimer immediate timer nDuration
    { ok := true
      stack := s.mapTxn fun txn =>
        ((txn.increaseTxnCount).increaseDurationExpired nDuration).setCurrentDuration
          nDuration }
  else { ok := true, stack := s }

/-- A state machine of one type of transaction: its states and events, the
events of expired timers, and the dispatch through its table of action
functions. -/
structure TxnFsm (σ ε : Type) where
  isTerminated : σ → Bool
  isTimeout : ε → Bool
  timeoutEvent : TimerType → Option ε
  invoke : ImmediateTimeout σ → ε → SipStack σ → FsmResult σ

/-- How a call of `CbkTxnTimeout` ended. -/
inductive TimeoutOutcome where
  | txnNotExists
  | timerIdMismatch
  | alreadyTerminated
  | invalidTimer
  | invokeFsmFailed
  /-- The listener is told that the transaction, or its reliable provisional
  response, has timed out. -/
  | notified
  /-- The last message is sent again. -/
  | retransmitted
  deriving DecidableEq, Repr

/-- `CbkTxnTimeout`, for a timer type and the id of the timer that expired. -/
def cbkTxnTimeout {σ ε : Type} (fsm : TxnFsm σ ε) (immediate : ImmediateTimeout σ)
    (timer : TimerType) (timerId : Option Nat) (s : SipStack σ) :
    SipStack σ × TimeoutOutcome :=
  if !s.inTxnPool then (s, .txnNotExists)
  else
    let s := s.increment
    if timerId ≠ s.txn.timerId then (s.sipDelete, .timerIdMismatch)
    else
      let s := s.mapTxn fun txn => { txn with timerId := none }
      if fsm.isTerminated s.txn.txnState then
        (s.removeFromTxnPool.sipDelete, .alreadyTerminated)
      else
        match fsm.timeoutEvent timer with
        | none => (s.sipDelete, .invalidTimer)
        | some event =>
          let result := fsm.invoke immediate event s
          let s := result.stack
          if !result.ok then (s.sipDelete, .invokeFsmFailed)
          else if fsm.isTerminated s.txn.txnState then
            (s.removeFromTxnPool.sipDelete, .notified)
          -- A reliable provisional response has timed out: the reference taken
          -- above is not given back on this path.
          else if s.txn.rprTxnTerminated then (s, .notified)
          else (s.sipDelete, .retransmitted)

/-- `SipTxn::InvokeFsm`: a timer of duration zero runs the callback of its
expiry inside the action that starts it.  The actions of expired timers start
no timer of duration zero, so one level of nesting is all there is. -/
def TxnFsm.invokeFsm {σ ε : Type} (fsm : TxnFsm σ ε) (event : ε) (s : SipStack σ) :
    FsmResult σ :=
  fsm.invoke (fun timer s => (cbkTxnTimeout fsm (fun _ s => s) timer none s).1) event s

end ImsStack.Txn
