import ImsStack.Txn.SipTxn

/-!
The INVITE server transaction: its action functions and its table.
-/

namespace ImsStack.Txn.SipInviteServerTxn

/-- The states of the INVITE server state machine. -/
inductive State where
  | idle | proceeding | accepted | completed | confirmed | terminated
  deriving DecidableEq, Repr

/-- The events of the INVITE server state machine, with the data the action
functions are handed. -/
inductive Event where
  | recvInvReq (data : SipTxnFsmData)
  | sendNon100ProvResp (data : SipTxnFsmData)
  | sendFailureResp (data : SipTxnFsmData)
  | send2xxResp (data : SipTxnFsmData)
  | transpError
  | recvAckReq (data : SipTxnFsmData)
  | timerGHTimeOut (timer : TimerType)
  | timerITimeOut
  | timerLTimeOut

abbrev Stack := SipStack State

/-- The entries of `gpfSipInvSerTxnFsm`. -/
inductive Action where
  | handleInvalidStateEvent
  | idleStateReceiveInviteRequest (data : SipTxnFsmData)
  | proceedingStateReceiveInviteRequest
  | proceedingStateSendNon100ProvisionalResponse (data : SipTxnFsmData)
  | proceedingStateSendFailureResponse (data : SipTxnFsmData)
  | proceedingStateSend2xxResponse
  | proceedingStateTransportError
  | proceedingStateTimerGHTimeout (timer : TimerType)
  | acceptedStateReceiveInviteRequest
  | acceptedStateSend2xxResponse
  | acceptedStateTransportError
  | acceptedStateReceiveAckRequest
  | acceptedStateTimerLTimeout
  | completedStateReceiveInviteRequest
  | completedStateTransportError
  | completedStateReceiveAckRequest
  | completedStateTimerGHTimeout
  | confirmedStateReceiveAckRequest
  | confirmedStateTimerITimeout

/-- `gpfSipInvSerTxnFsm`. -/
def table : State → Event → Action
  | .idle, .recvInvReq data => .idleStateReceiveInviteRequest data
  | .proceeding, .recvInvReq _ => .proceedingStateReceiveInviteRequest
  | .proceeding, .sendNon100ProvResp data =>
    .proceedingStateSendNon100ProvisionalResponse data
  | .proceeding, .sendFailureResp data => .proceedingStateSendFailureResponse data
  | .proceeding, .send2xxResp _ => .proceedingStateSend2xxResponse
  | .proceeding, .transpError => .proceedingStateTransportError
  | .proceeding, .timerGHTimeOut timer => .proceedingStateTimerGHTimeout timer
  | .accepted, .recvInvReq _ => .acceptedStateReceiveInviteRequest
  | .accepted, .send2xxResp _ => .acceptedStateSend2xxResponse
  | .accepted, .transpError => .acceptedStateTransportError
  | .accepted, .recvAckReq _ => .acceptedStateReceiveAckRequest
  | .accepted, .timerLTimeOut => .acceptedStateTimerLTimeout
  | .completed, .recvInvReq _ => .completedStateReceiveInviteRequest
  | .completed, .transpError => .completedStateTransportError
  | .completed, .recvAckReq _ => .completedStateReceiveAckRequest
  | .completed, .timerGHTimeOut _ => .completedStateTimerGHTimeout
  | .confirmed, .recvAckReq _ => .confirmedStateReceiveAckRequest
  | .confirmed, .timerITimeOut => .confirmedStateTimerITimeout
  | _, _ => .handleInvalidStateEvent

section Actions

variable (immediate : ImmediateTimeout State)

def handleInvalidStateEvent (s : Stack) : FsmResult State := { ok := false, stack := s }

def idleStateReceiveInviteRequest (data : SipTxnFsmData) (s : Stack) : FsmResult State :=
  match s.txn.txnKey.copy with
  | none => { ok := false, stack := s }
  | some _ =>
    if !data.poolAccepts then { ok := false, stack := s }
    else
      let s := s.addToTxnPool
      { ok := true
        stack := s.mapTxn (·.setTxnState .proceeding)
        out := { txnCreated := true, txnStatus := .newReqRecvd } }

def proceedingStateReceiveInviteRequest (s : Stack) : FsmResult State :=
  { ok := true
    stack := s
    out := {
      transpInfo := s.txn.transpInfo
      txnStatus := if s.txn.transpInfo.isSome then .retransmission else .ignoreReq } }

/-- The common beginning of the actions that send a response in the state
Proceeding: the timer is stopped, the keys of provisional responses sent before
are deleted and the counters start again. -/
def stopRetransmission (s : Stack) : Stack :=
  let s := s.stopTxnTimer
  let s := s.deleteKeys s.txn.txnKey
  s.mapTxn (·.initRetransmissionInfo)

def proceedingStateSendNon100ProvisionalResponse (data : SipTxnFsmData) (s : Stack) :
    FsmResult State :=
  let s := stopRetransmission s
  let nStatusCode := data.sipMsgIn.statusCode
  if (100 < nStatusCode ∧ nStatusCode < 200) ∧ data.sipMsgIn.hasRSeq then
    -- The key has been copied before, when the transaction was created, so
    -- copying it again succeeds.
    let s := s.addKey { s.txn.txnKey with rSeqNum := data.sipMsgIn.rSeq.getD 0 }
    let nDurationT1 := s.txn.getTimerValue .timerT1
    let s := s.startTxnTimer immediate .timerG nDurationT1
    { ok := true
      stack := s.mapTxn (·.setMaxDuration (uint32 (nDurationT1 * 64)))
      out := { txnStatus := .validMessage } }
  else { ok := true, stack := s, out := { txnStatus := .validMessage } }

def proceedingStateSendFailureResponse (data : SipTxnFsmData) (s : Stack) : FsmResult State :=
  let s := stopRetransmission s
  let nDurationTH := s.txn.getTimerValue .timerH
  let s :=
    if data.transpProtocol = .udp then
      s.startTxnTimer immediate .timerG (s.txn.getTimerValue .timerT1)
    else
      (s.startTxnTimer immediate .timerH nDurationTH).mapTxn
        (·.increaseDurationExpired nDurationTH)
  let s := s.mapTxn (·.setMaxDuration nDurationTH)
  { ok := true
    stack := s.mapTxn (·.setTxnState .completed)
    out := { txnStatus := .validMessage } }

def proceedingStateSend2xxResponse (s : Stack) : FsmResult State :=
  let s := stopRetransmission s
  let nDurationTL := s.txn.getTimerValue .timerL
  let s := s.startTxnTimer immediate .timerL nDurationTL
  let s := s.mapTxn fun txn =>
    (txn.setMaxDuration nDurationTL).increaseDurationExpired nDurationTL
  { ok := true
    stack := s.mapTxn (·.setTxnState .accepted)
    out := { txnStatus := .validMessage } }

def proceedingStateTransportError (s : Stack) : FsmResult State := { ok := true, stack := s }

def proceedingStateTimerGHTimeout (timer : TimerType) (s : Stack) : FsmResult State :=
  let nDurationExpired := s.firstDurationExpired
  let s := s.countFirstExpiry
  let nMaxDuration := s.txn.maxDuration
  if timer = .timerG then
    if nMaxDuration ≤ nDurationExpired then
      { ok := true, stack := s.mapTxn (·.setRprTxnTerminated true) }
    else
      let nDuration := uint32 (s.txn.currentDuration * 2)
      let nDuration :=
        if nMaxDuration ≤ uint32 (nDurationExpired + nDuration) then
          nMaxDuration - nDurationExpired
        else nDuration
      restartTimer immediate .timerG nDuration s
  else { ok := true, stack := s }

def acceptedStateReceiveInviteRequest (s : Stack) : FsmResult State :=
  { ok := true
    stack := s
    out := { txnStatus := .ignoreReq, transpInfo := s.txn.transpInfo } }

def acceptedStateSend2xxResponse (s : Stack) : FsmResult State :=
  { ok := true, stack := s, out := { txnStatus := .validMessage } }

def acceptedStateTransportError (s : Stack) : FsmResult State := { ok := true, stack := s }

def acceptedStateReceiveAckRequest (s : Stack) : FsmResult State :=
  if s.txn.ackReceived then
    { ok := true, stack := s, out := { txnStatus := .ackRetransmission } }
  else
    { ok := true
      stack := s.mapTxn (·.setAckReceived true)
      out := { txnStatus := .validMessage } }

def acceptedStateTimerLTimeout (s : Stack) : FsmResult State :=
  { ok := true, stack := s.mapTxn (·.setTxnState .terminated) }

def completedStateReceiveInviteRequest (s : Stack) : FsmResult State :=
  { ok := true
    stack := s
    out := { txnStatus := .retransmission, transpInfo := s.txn.transpInfo } }

def completedStateTransportError (s : Stack) : FsmResult State := { ok := true, stack := s }

def completedStateReceiveAckRequest (s : Stack) : FsmResult State :=
  let s := s.stopTxnTimer
  if s.txn.getMsgSentProto = .udp then
    let s := s.startTxnTimer immediate .timerI (s.txn.getTimerValue .timerI)
    { ok := true
      stack := s.mapTxn (·.setTxnState .confirmed)
      out := { txnStatus := .validMessage } }
  else
    { ok := true
      stack := s.mapTxn (·.setTxnState .terminated)
      out := { txnStatus := .validMessage, txnTerminated := true } }

def completedStateTimerGHTimeout (s : Stack) : FsmResult State :=
  let nDurationExpired := s.firstDurationExpired
  let s := s.countFirstExpiry
  let nMaxDuration := s.txn.maxDuration
  if s.txn.getMsgSentProto = .udp then
    if nMaxDuration ≤ nDurationExpired then
      { ok := true, stack := s.mapTxn (·.setTxnState .terminated) }
    else
      let nNextDuration := uint32 (s.txn.currentDuration * 2)
      let nDuration := min nNextDuration (s.txn.getTimerValue .timerT2)
      let nDuration :=
        if nMaxDuration ≤ uint32 (nDurationExpired + nDuration) then
          nMaxDuration - nDurationExpired
        else nDuration
      restartTimer immediate .timerG nDuration s
  else
    { ok := true, stack := s.mapTxn (·.setTxnState .terminated) }

def confirmedStateReceiveAckRequest (s : Stack) : FsmResult State :=
  { ok := true, stack := s, out := { txnStatus := .validMessage } }

def confirmedStateTimerITimeout (s : Stack) : FsmResult State :=
  { ok := true, stack := s.mapTxn (·.setTxnState .terminated) }

end Actions

/-- The call of the action function a table entry points to. -/
def runAction (immediate : ImmediateTimeout State) : Action → Stack → FsmResult State
  | .handleInvalidStateEvent => handleInvalidStateEvent
  | .idleStateReceiveInviteRequest data => idleStateReceiveInviteRequest data
  | .proceedingStateReceiveInviteRequest => proceedingStateReceiveInviteRequest
  | .proceedingStateSendNon100ProvisionalResponse data =>
    proceedingStateSendNon100ProvisionalResponse immediate data
  | .proceedingStateSendFailureResponse data =>
    proceedingStateSendFailureResponse immediate data
  | .proceedingStateSend2xxResponse => proceedingStateSend2xxResponse immediate
  | .proceedingStateTransportError => proceedingStateTransportError
  | .proceedingStateTimerGHTimeout timer => proceedingStateTimerGHTimeout immediate timer
  | .acceptedStateReceiveInviteRequest => acceptedStateReceiveInviteRequest
  | .acceptedStateSend2xxResponse => acceptedStateSend2xxResponse
  | .acceptedStateTransportError => acceptedStateTransportError
  | .acceptedStateReceiveAckRequest => acceptedStateReceiveAckRequest
  | .acceptedStateTimerLTimeout => acceptedStateTimerLTimeout
  | .completedStateReceiveInviteRequest => completedStateReceiveInviteRequest
  | .completedStateTransportError => completedStateTransportError
  | .completedStateReceiveAckRequest => completedStateReceiveAckRequest immediate
  | .completedStateTimerGHTimeout => completedStateTimerGHTimeout immediate
  | .confirmedStateReceiveAckRequest => confirmedStateReceiveAckRequest
  | .confirmedStateTimerITimeout => confirmedStateTimerITimeout

/-- The INVITE server state machine, with the events `CbkTxnTimeout` maps its
timers to. -/
def fsm : TxnFsm State Event where
  isTerminated state := state = .terminated
  isTimeout
    | .timerGHTimeOut _ | .timerITimeOut | .timerLTimeOut => true
    | _ => false
  timeoutEvent
    | .timerG => some (.timerGHTimeOut .timerG)
    | .timerH => some (.timerGHTimeOut .timerH)
    | .timerI => some .timerITimeOut
    | .timerL => some .timerLTimeOut
    | _ => none
  invoke immediate event s := runAction immediate (table s.txn.txnState event) s

end ImsStack.Txn.SipInviteServerTxn
