import ImsStack.Txn.SipTxn

/-!
The non-INVITE client transaction: its action functions and its table.
-/

namespace ImsStack.Txn.SipNonInviteClientTxn

/-- The states of the non-INVITE client state machine. -/
inductive State where
  | idle | trying | proceeding | completed | terminated
  deriving DecidableEq, Repr

/-- The events of the non-INVITE client state machine, with the data the action
functions are handed. -/
inductive Event where
  | sendNonInvReq (data : SipTxnFsmData)
  | timerEFTimeOut
  | recv1xxResp (data : SipTxnFsmData)
  | recvFinalResp (data : SipTxnFsmData)
  | transpError
  | timerKTimeOut

abbrev Stack := SipStack State

/-- The entries of `gpfSipNonInvClientTxnFsm`. -/
inductive Action where
  | handleInvalidStateEvent
  | idleStateSendNonInviteRequest (data : SipTxnFsmData)
  | tryingStateTimerEFTimeout
  | tryingStateReceive1xxResponse
  | tryingStateReceiveFinalResponse
  | tryingStateTransportError
  | proceedingStateTimerEFTimeout
  | proceedingStateReceive1xxResponse
  | proceedingStateReceiveFinalResponse
  | proceedingStateTransportError
  | completedStateTimerKTimeout
  | completedStateReceive1xxResponse
  | completedStateReceiveFinalResponse
  | completedStateTransportError

/-- `gpfSipNonInvClientTxnFsm`. -/
def table : State → Event → Action
  | .idle, .sendNonInvReq data => .idleStateSendNonInviteRequest data
  | .trying, .timerEFTimeOut => .tryingStateTimerEFTimeout
  | .trying, .recv1xxResp _ => .tryingStateReceive1xxResponse
  | .trying, .recvFinalResp _ => .tryingStateReceiveFinalResponse
  | .trying, .transpError => .tryingStateTransportError
  | .proceeding, .timerEFTimeOut => .proceedingStateTimerEFTimeout
  | .proceeding, .recv1xxResp _ => .proceedingStateReceive1xxResponse
  | .proceeding, .recvFinalResp _ => .proceedingStateReceiveFinalResponse
  | .proceeding, .transpError => .proceedingStateTransportError
  | .completed, .recv1xxResp _ => .completedStateReceive1xxResponse
  | .completed, .recvFinalResp _ => .completedStateReceiveFinalResponse
  | .completed, .transpError => .completedStateTransportError
  | .completed, .timerKTimeOut => .completedStateTimerKTimeout
  | _, _ => .handleInvalidStateEvent

section Actions

variable (immediate : ImmediateTimeout State)

def handleInvalidStateEvent (s : Stack) : FsmResult State := { ok := false, stack := s }

/-- `HandleTimeout`: timer E is started again, with a doubled duration in the
state Trying and with T2 in the state Proceeding. -/
def handleTimeout (s : Stack) : FsmResult State :=
  let nDurationExpired := s.firstDurationExpired
  let s := s.countFirstExpiry
  let nMaxDuration := s.txn.maxDuration
  if s.txn.getMsgSentProto = .udp then
    if nMaxDuration ≤ nDurationExpired then
      { ok := true, stack := s.mapTxn (·.setTxnState .terminated) }
    else
      let nDurationT2 := s.txn.getTimerValue .timerT2
      let nDuration :=
        if s.txn.txnState = .trying then min (uint32 (s.txn.currentDuration * 2)) nDurationT2
        else nDurationT2
      let nDuration :=
        if nMaxDuration ≤ uint32 (nDurationExpired + nDuration) then
          nMaxDuration - nDurationExpired
        else nDuration
      restartTimer immediate .timerE nDuration s
  else
    { ok := true, stack := s.mapTxn (·.setTxnState .terminated) }

/-- `HandleFinalResponse` and the caller's part behind it. -/
def handleFinalResponse (s : Stack) : FsmResult State :=
  let s := s.stopTxnTimer
  if s.txn.getMsgSentProto = .udp then
    let nDurationTK := s.txn.getTimerValue .timerK
    let s := s.startTxnTimer immediate .timerK nDurationTK
    let s := s.mapTxn (·.setCurrentDuration nDurationTK)
    { ok := true
      stack := s.mapTxn (·.setTxnState .completed)
      out := { txnStatus := .validMessage } }
  else
    { ok := true
      stack := s.mapTxn (·.setTxnState .terminated)
      out := { txnStatus := .validMessage, txnTerminated := true } }

def idleStateSendNonInviteRequest (data : SipTxnFsmData) (s : Stack) : FsmResult State :=
  match s.txn.txnKey.copy with
  | none => { ok := false, stack := s }
  | some newTxnKey =>
    if !data.poolAccepts then { ok := false, stack := s }
    else
      let s := s.addToTxnPool
      let nDurationTF := s.txn.getTimerValue .timerF
      let s :=
        if data.transpProtocol = .udp then
          s.startTxnTimer immediate .timerE (s.txn.getTimerValue .timerT1)
        else s.startTxnTimer immediate .timerF nDurationTF
      let s := s.mapTxn (·.setMaxDuration nDurationTF)
      let s := s.mapTxn (·.setTxnState .trying)
      { ok := true
        stack :=
          if strcmpEquals newTxnKey.method (some methodCancel) then
            s.deleteKeys s.txn.txnKey
          else s
        out := { txnCreated := true } }

def tryingStateTimerEFTimeout (s : Stack) : FsmResult State := handleTimeout immediate s

def tryingStateReceive1xxResponse (s : Stack) : FsmResult State :=
  { ok := true
    stack := s.mapTxn (·.setTxnState .proceeding)
    out := { txnStatus := .validMessage } }

def tryingStateReceiveFinalResponse (s : Stack) : FsmResult State :=
  handleFinalResponse immediate s

def tryingStateTransportError (s : Stack) : FsmResult State :=
  { ok := true, stack := s.stopTxnTimer.mapTxn (·.setTxnState .terminated) }

def proceedingStateTimerEFTimeout (s : Stack) : FsmResult State := handleTimeout immediate s

def proceedingStateReceive1xxResponse (s : Stack) : FsmResult State :=
  { ok := true, stack := s, out := { txnStatus := .validMessage } }

def proceedingStateReceiveFinalResponse (s : Stack) : FsmResult State :=
  handleFinalResponse immediate s

def proceedingStateTransportError (s : Stack) : FsmResult State :=
  { ok := true, stack := s.stopTxnTimer.mapTxn (·.setTxnState .terminated) }

def completedStateTimerKTimeout (s : Stack) : FsmResult State :=
  { ok := true, stack := s.mapTxn (·.setTxnState .terminated) }

def completedStateReceive1xxResponse (s : Stack) : FsmResult State :=
  { ok := true, stack := s, out := { txnStatus := .ignoreResp } }

def completedStateReceiveFinalResponse (s : Stack) : FsmResult State :=
  { ok := true, stack := s, out := { txnStatus := .ignoreResp } }

def completedStateTransportError (s : Stack) : FsmResult State :=
  { ok := true, stack := s.stopTxnTimer.mapTxn (·.setTxnState .terminated) }

end Actions

/-- The call of the action function a table entry points to. -/
def runAction (immediate : ImmediateTimeout State) : Action → Stack → FsmResult State
  | .handleInvalidStateEvent => handleInvalidStateEvent
  | .idleStateSendNonInviteRequest data => idleStateSendNonInviteRequest immediate data
  | .tryingStateTimerEFTimeout => tryingStateTimerEFTimeout immediate
  | .tryingStateReceive1xxResponse => tryingStateReceive1xxResponse
  | .tryingStateReceiveFinalResponse => tryingStateReceiveFinalResponse immediate
  | .tryingStateTransportError => tryingStateTransportError
  | .proceedingStateTimerEFTimeout => proceedingStateTimerEFTimeout immediate
  | .proceedingStateReceive1xxResponse => proceedingStateReceive1xxResponse
  | .proceedingStateReceiveFinalResponse => proceedingStateReceiveFinalResponse immediate
  | .proceedingStateTransportError => proceedingStateTransportError
  | .completedStateTimerKTimeout => completedStateTimerKTimeout
  | .completedStateReceive1xxResponse => completedStateReceive1xxResponse
  | .completedStateReceiveFinalResponse => completedStateReceiveFinalResponse
  | .completedStateTransportError => completedStateTransportError

/-- The non-INVITE client state machine, with the events `CbkTxnTimeout` maps
its timers to. -/
def fsm : TxnFsm State Event where
  isTerminated state := state = .terminated
  isTimeout
    | .timerEFTimeOut | .timerKTimeOut => true
    | _ => false
  timeoutEvent
    | .timerE | .timerF => some .timerEFTimeOut
    | .timerK => some .timerKTimeOut
    | _ => none
  invoke immediate event s := runAction immediate (table s.txn.txnState event) s

end ImsStack.Txn.SipNonInviteClientTxn
