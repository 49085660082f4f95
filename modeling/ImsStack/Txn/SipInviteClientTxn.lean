import ImsStack.Txn.SipTxn

/-!
The INVITE client transaction: its action functions and its table.
-/

namespace ImsStack.Txn.SipInviteClientTxn

/-- The states of the INVITE client state machine. -/
inductive State where
  | idle | calling | proceeding | accepted | completed | terminated
  deriving DecidableEq, Repr

/-- The events of the INVITE client state machine, with the data the action
functions are handed. -/
inductive Event where
  | sendInvReq (data : SipTxnFsmData)
  | timerABTimeOut
  | timerDTimeOut
  | recv1xxResp (data : SipTxnFsmData)
  | recv2xxResp (data : SipTxnFsmData)
  | recvFailureResp (data : SipTxnFsmData)
  | transpError
  | timerMTimeOut

abbrev Stack := SipStack State

/-- The entries of `gpfSipInvClientTxnFsm`. -/
inductive Action where
  | handleInvalidStateEvent
  | idleStateSendInviteRequest (data : SipTxnFsmData)
  | callingStateTimerABTimeout
  | callingStateReceive1xxResponse (data : SipTxnFsmData)
  | callingStateReceive2xxResponse
  | callingStateReceiveFailureResponse
  | callingStateTransportError
  | proceedingStateReceive1xxResponse (data : SipTxnFsmData)
  | proceedingStateReceive2xxResponse (data : SipTxnFsmData)
  | proceedingStateReceiveFailureResponse
  | proceedingStateTransportError
  | acceptedStateReceive1xxResponse (data : SipTxnFsmData)
  | acceptedStateReceive2xxResponse (data : SipTxnFsmData)
  | acceptedStateReceiveFailureResponse (data : SipTxnFsmData)
  | acceptedStateTransportError
  | acceptedStateTimerMTimeout
  | completedStateTimerDTimeout
  | completedStateReceive1xxResponse
  | completedStateReceiveFailureResponse
  | completedStateTransportError

/-- `gpfSipInvClientTxnFsm`. -/
def table : State → Event → Action
  | .idle, .sendInvReq data => .idleStateSendInviteRequest data
  | .calling, .timerABTimeOut => .callingStateTimerABTimeout
  | .calling, .recv1xxResp data => .callingStateReceive1xxResponse data
  | .calling, .recv2xxResp _ => .callingStateReceive2xxResponse
  | .calling, .recvFailureResp _ => .callingStateReceiveFailureResponse
  | .calling, .transpError => .callingStateTransportError
  | .proceeding, .recv1xxResp data => .proceedingStateReceive1xxResponse data
  | .proceeding, .recv2xxResp data => .proceedingStateReceive2xxResponse data
  | .proceeding, .recvFailureResp _ => .proceedingStateReceiveFailureResponse
  | .proceeding, .transpError => .proceedingStateTransportError
  | .accepted, .recv1xxResp data => .acceptedStateReceive1xxResponse data
  | .accepted, .recv2xxResp data => .acceptedStateReceive2xxResponse data
  | .accepted, .recvFailureResp data => .acceptedStateReceiveFailureResponse data
  | .accepted, .transpError => .acceptedStateTransportError
  | .accepted, .timerMTimeOut => .acceptedStateTimerMTimeout
  | .completed, .timerDTimeOut => .completedStateTimerDTimeout
  | .completed, .recv1xxResp _ => .completedStateReceive1xxResponse
  | .completed, .recvFailureResp _ => .completedStateReceiveFailureResponse
  | .completed, .transpError => .completedStateTransportError
  | _, _ => .handleInvalidStateEvent

section Actions

variable (immediate : ImmediateTimeout State)

def handleInvalidStateEvent (s : Stack) : FsmResult State := { ok := false, stack := s }

/-- `HandleFailureResponse` and the caller's part behind it.  The ACK request is
built from headers the stack has already accepted, so building it succeeds.
Timer D is started whatever the transport. -/
def handleFailureResponse (s : Stack) : FsmResult State :=
  let nDurationTD := s.txn.getTimerValue .timerD
  let s := s.startTxnTimer immediate .timerD nDurationTD
  { ok := true
    stack := s.mapTxn (·.setTxnState .completed)
    out := { sendSipMsg := true, txnStatus := .validMessage } }

def idleStateSendInviteRequest (data : SipTxnFsmData) (s : Stack) : FsmResult State :=
  match s.txn.txnKey.copy with
  | none => { ok := false, stack := s }
  | some _ =>
    if !data.poolAccepts then { ok := false, stack := s }
    else
      let s := s.addToTxnPool
      let nDurationTB := s.txn.getTimerValue .timerB
      let s :=
        if data.transpProtocol = .udp then
          s.startTxnTimer immediate .timerA (s.txn.getTimerValue .timerT1)
        else s.startTxnTimer immediate .timerB nDurationTB
      let s := s.mapTxn (·.setMaxDuration nDurationTB)
      { ok := true
        stack := s.mapTxn (·.setTxnState .calling)
        out := { txnCreated := true } }

def callingStateTimerABTimeout (s : Stack) : FsmResult State :=
  let nT1Val := s.txn.getTimerValue .timerT1
  let nDurationExpired := s.firstDurationExpired
  let s := s.countFirstExpiry
  let nMaxDuration := s.txn.maxDuration
  if s.txn.getMsgSentProto = .udp then
    if nMaxDuration ≤ nDurationExpired then
      { ok := true, stack := s.mapTxn (·.setTxnState .terminated) }
    else
      let nReTxCount := uint16 (s.txn.retransmissionCount + 1)
      let nPow2 := uint32 (2 ^ nReTxCount)
      let nDuration := uint32 (nPow2 * nT1Val)
      let nDuration :=
        if nMaxDuration ≤ uint32 (nDurationExpired + nDuration) then
          nMaxDuration - nDurationExpired
        else nDuration
      restartTimer immediate .timerA nDuration s
  else
    { ok := true, stack := s.mapTxn (·.setTxnState .terminated) }

def callingStateReceive1xxResponse (data : SipTxnFsmData) (s : Stack) : FsmResult State :=
  let s := s.stopTxnTimer
  let s :=
    if data.sipMsgIn.statusCode ≠ 100 ∧ data.sipMsgIn.hasRSeq then
      s.addKey data.sipMsgIn.makeKey
    else s
  { ok := true
    stack := s.mapTxn (·.setTxnState .proceeding)
    out := { txnStatus := .validMessage } }

def callingStateReceive2xxResponse (s : Stack) : FsmResult State :=
  let s := s.stopTxnTimer
  let s := s.startTxnTimer immediate .timerM (s.txn.getTimerValue .timerM)
  { ok := true
    stack := s.mapTxn (·.setTxnState .accepted)
    out := { txnStatus := .validMessage } }

def callingStateReceiveFailureResponse (s : Stack) : FsmResult State :=
  handleFailureResponse immediate s.stopTxnTimer

def callingStateTransportError (s : Stack) : FsmResult State :=
  { ok := true, stack := s.stopTxnTimer.mapTxn (·.setTxnState .terminated) }

/-- `pINVTxnKey->SetRSeq(nRseq)` on the stored key that `SearchTxnKey` found. -/
def setStoredRSeq (keys : List SipTxnKey) (found : SipTxnKey) (rSeq : Nat) : List SipTxnKey :=
  match keys with
  | [] => []
  | key :: keys =>
    if key = found then { key with rSeqNum := rSeq } :: keys
    else key :: setStoredRSeq keys found rSeq

def proceedingStateReceive1xxResponse (data : SipTxnFsmData) (s : Stack) : FsmResult State :=
  let valid := { ok := true, stack := s, out := { txnStatus := .validMessage } }
  if data.sipMsgIn.statusCode ≠ 100 ∧ data.sipMsgIn.hasRSeq then
    let tempTxnKey := data.sipMsgIn.makeKey
    match searchTxnKey s.txnKeyList tempTxnKey with
    | some _ => { ok := true, stack := s, out := { txnStatus := .retransmission } }
    | none =>
      match searchTxnKey s.txnKeyList tempTxnKey false with
      | some invTxnKey =>
        if uint32 (invTxnKey.rSeqNum + 1) ≠ tempTxnKey.rSeqNum then
          { ok := true, stack := s, out := { txnStatus := .strayResp } }
        else
          { valid with
            stack := { s with
              txnKeyList := setStoredRSeq s.txnKeyList invTxnKey tempTxnKey.rSeqNum } }
      | none => { valid with stack := s.addKey tempTxnKey }
  else valid

def proceedingStateReceive2xxResponse (data : SipTxnFsmData) (s : Stack) : FsmResult State :=
  let s := s.deleteKeys data.sipMsgIn.makeKey true
  let s := s.startTxnTimer immediate .timerM (s.txn.getTimerValue .timerM)
  { ok := true
    stack := s.mapTxn (·.setTxnState .accepted)
    out := { txnStatus := .validMessage } }

def proceedingStateReceiveFailureResponse (s : Stack) : FsmResult State :=
  handleFailureResponse immediate (s.deleteKeys s.txn.txnKey)

def proceedingStateTransportError (s : Stack) : FsmResult State :=
  { ok := true, stack := s.mapTxn (·.setTxnState .terminated) }

def acceptedStateReceive1xxResponse (data : SipTxnFsmData) (s : Stack) : FsmResult State :=
  { ok := true
    stack := s
    out := { txnStatus :=
      if (searchTxnKey s.txnKeyList data.sipMsgIn.makeKey).isSome then .retransmission
      else .ignoreResp } }

def acceptedStateReceive2xxResponse (data : SipTxnFsmData) (s : Stack) : FsmResult State :=
  { ok := true
    stack := s.deleteKeys data.sipMsgIn.makeKey true
    out := { txnStatus := .validMessage } }

def acceptedStateReceiveFailureResponse (data : SipTxnFsmData) (s : Stack) : FsmResult State :=
  { ok := true
    stack := s.deleteKeys data.sipMsgIn.makeKey true
    out := { txnStatus := .ignoreResp } }

def acceptedStateTransportError (s : Stack) : FsmResult State :=
  let s := s.stopTxnTimer
  let s := s.deleteKeys s.txn.txnKey
  { ok := true, stack := s.mapTxn (·.setTxnState .terminated) }

def acceptedStateTimerMTimeout (s : Stack) : FsmResult State :=
  let s := s.deleteKeys s.txn.txnKey
  { ok := true, stack := s.mapTxn (·.setTxnState .terminated) }

def completedStateTimerDTimeout (s : Stack) : FsmResult State :=
  { ok := true, stack := s.mapTxn (·.setTxnState .terminated) }

def completedStateReceive1xxResponse (s : Stack) : FsmResult State :=
  { ok := true, stack := s, out := { txnStatus := .ignoreResp } }

def completedStateReceiveFailureResponse (s : Stack) : FsmResult State :=
  { ok := true
    stack := s
    out := { txnStatus := .retransmission, transpInfo := s.txn.transpInfo } }

def completedStateTransportError (s : Stack) : FsmResult State :=
  { ok := true, stack := s.stopTxnTimer.mapTxn (·.setTxnState .terminated) }

end Actions

/-- The call of the action function a table entry points to. -/
def runAction (immediate : ImmediateTimeout State) : Action → Stack → FsmResult State
  | .handleInvalidStateEvent => handleInvalidStateEvent
  | .idleStateSendInviteRequest data => idleStateSendInviteRequest immediate data
  | .callingStateTimerABTimeout => callingStateTimerABTimeout immediate
  | .callingStateReceive1xxResponse data => callingStateReceive1xxResponse data
  | .callingStateReceive2xxResponse => callingStateReceive2xxResponse immediate
  | .callingStateReceiveFailureResponse => callingStateReceiveFailureResponse immediate
  | .callingStateTransportError => callingStateTransportError
  | .proceedingStateReceive1xxResponse data => proceedingStateReceive1xxResponse data
  | .proceedingStateReceive2xxResponse data =>
    proceedingStateReceive2xxResponse immediate data
  | .proceedingStateReceiveFailureResponse => proceedingStateReceiveFailureResponse immediate
  | .proceedingStateTransportError => proceedingStateTransportError
  | .acceptedStateReceive1xxResponse data => acceptedStateReceive1xxResponse data
  | .acceptedStateReceive2xxResponse data => acceptedStateReceive2xxResponse data
  | .acceptedStateReceiveFailureResponse data => acceptedStateReceiveFailureResponse data
  | .acceptedStateTransportError => acceptedStateTransportError
  | .acceptedStateTimerMTimeout => acceptedStateTimerMTimeout
  | .completedStateTimerDTimeout => completedStateTimerDTimeout
  | .completedStateReceive1xxResponse => completedStateReceive1xxResponse
  | .completedStateReceiveFailureResponse => completedStateReceiveFailureResponse
  | .completedStateTransportError => completedStateTransportError

/-- The INVITE client state machine, with the events `CbkTxnTimeout` maps its
timers to. -/
def fsm : TxnFsm State Event where
  isTerminated state := state = .terminated
  isTimeout
    | .timerABTimeOut | .timerDTimeOut | .timerMTimeOut => true
    | _ => false
  timeoutEvent
    | .timerA | .timerB => some .timerABTimeOut
    | .timerD => some .timerDTimeOut
    | .timerM => some .timerMTimeOut
    | _ => none
  invoke immediate event s := runAction immediate (table s.txn.txnState event) s

end ImsStack.Txn.SipInviteClientTxn
