import ImsStack.Txn.SipTxn

/-!
The non-INVITE server transaction: its action functions and its table.
-/

namespace ImsStack.Txn.SipNonInviteServerTxn

/-- The states of the non-INVITE server state machine. -/
inductive State where
  | idle | trying | proceeding | completed | terminated
  deriving DecidableEq, Repr

/-- The events of the non-INVITE server state machine, with the data the action
functions are handed. -/
inductive Event where
  | recvNonInvReq (data : SipTxnFsmData)
  | send1xxResp (data : SipTxnFsmData)
  | sendFinalResp (data : SipTxnFsmData)
  | transpError
  | timerJTimeOut

abbrev Stack := SipStack State

/-- The entries of `gpfSipNonInvSerTxnFsm`. -/
inductive Action where
  | handleInvalidStateEvent
  | idleStateReceiveNonInviteRequest (data : SipTxnFsmData)
  | tryingStateReceiveNonInviteRequest
  | tryingStateSend1xxResponse
  | tryingStateSendFinalResponse (data : SipTxnFsmData)
  | tryingStateTransportError
  | proceedingStateReceiveNonInviteRequest
  | proceedingStateSend1xxResponse
  | proceedingStateSendFinalResponse (data : SipTxnFsmData)
  | proceedingStateTransportError
  | completedStateReceiveNonInviteRequest
  | completedStateTransportError
  | completedStateTimerJTimeout

/-- `gpfSipNonInvSerTxnFsm`. -/
def table : State → Event → Action
  | .idle, .recvNonInvReq data => .idleStateReceiveNonInviteRequest data
  | .trying, .recvNonInvReq _ => .tryingStateReceiveNonInviteRequest
  | .trying, .send1xxResp _ => .tryingStateSend1xxResponse
  | .trying, .sendFinalResp data => .tryingStateSendFinalResponse data
  | .trying, .transpError => .tryingStateTransportError
  | .proceeding, .recvNonInvReq _ => .proceedingStateReceiveNonInviteRequest
  | .proceeding, .send1xxResp _ => .proceedingStateSend1xxResponse
  | .proceeding, .sendFinalResp data => .proceedingStateSendFinalResponse data
  | .proceeding, .transpError => .proceedingStateTransportError
  | .completed, .recvNonInvReq _ => .completedStateReceiveNonInviteRequest
  | .completed, .transpError => .completedStateTransportError
  | .completed, .timerJTimeOut => .completedStateTimerJTimeout
  | _, _ => .handleInvalidStateEvent

section Actions

variable (immediate : ImmediateTimeout State)

def handleInvalidStateEvent (s : Stack) : FsmResult State := { ok := false, stack := s }

/-- `SendFinalResponse` and the caller's part behind it. -/
def sendFinalResponse (data : SipTxnFsmData) (s : Stack) : FsmResult State :=
  if data.transpProtocol = .udp then
    let nDurationTJ := s.txn.getTimerValue .timerJ
    let s := s.startTxnTimer immediate .timerJ nDurationTJ
    let s := s.mapTxn (·.setCurrentDuration nDurationTJ)
    { ok := true
      stack := s.mapTxn (·.setTxnState .completed)
      out := { txnStatus := .validMessage } }
  else
    { ok := true
      stack := s.mapTxn (·.setTxnState .terminated)
      out := { txnStatus := .validMessage, txnTerminated := true } }

/-- A request that opens the transaction.  A PRACK request also deletes the keys
of the provisional response it acknowledges, when the INVITE transaction is
still in the pool; that transaction's own part is
`SipStack.prackReceived`. -/
def idleStateReceiveNonInviteRequest (data : SipTxnFsmData) (s : Stack) : FsmResult State :=
  match s.txn.txnKey.copy with
  | none => { ok := false, stack := s }
  | some newTxnKey =>
    if !data.poolAccepts then { ok := false, stack := s }
    else
      let s := s.addToTxnPool
      let s := s.mapTxn (·.setTxnState .trying)
      match data.sipMsgIn.prackRAck with
      | none =>
        { ok := true, stack := s, out := { txnCreated := true, txnStatus := .newReqRecvd } }
      | some nRseqNum =>
        let newTxnKey := { newTxnKey with rSeqNum := nRseqNum }
        match searchTxnKey s.txnKeyList newTxnKey with
        | some _ =>
          { ok := true
            stack := if data.inviteTxnFetched then s.deleteKeys newTxnKey true else s
            out := { txnCreated := true, txnStatus := .newReqRecvd } }
        | none =>
          { ok := true
            stack := s
            out := {
              txnCreated := true
              txnStatus :=
                if (searchTxnKey s.txnKeyList newTxnKey false).isSome then .strayPrack
                else .newReqRecvd } }

def tryingStateReceiveNonInviteRequest (s : Stack) : FsmResult State :=
  { ok := true, stack := s, out := { txnStatus := .ignoreReq } }

def tryingStateSend1xxResponse (s : Stack) : FsmResult State :=
  { ok := true
    stack := s.mapTxn (·.setTxnState .proceeding)
    out := { txnStatus := .validMessage } }

def tryingStateSendFinalResponse (data : SipTxnFsmData) (s : Stack) : FsmResult State :=
  sendFinalResponse immediate data s

def tryingStateTransportError (s : Stack) : FsmResult State :=
  { ok := true, stack := s.mapTxn (·.setTxnState .terminated) }

def proceedingStateReceiveNonInviteRequest (s : Stack) : FsmResult State :=
  { ok := true
    stack := s
    out := { txnStatus := .retransmission, transpInfo := s.txn.transpInfo } }

def proceedingStateSend1xxResponse (s : Stack) : FsmResult State :=
  { ok := true, stack := s, out := { txnStatus := .validMessage } }

def proceedingStateSendFinalResponse (data : SipTxnFsmData) (s : Stack) : FsmResult State :=
  sendFinalResponse immediate data s

def proceedingStateTransportError (s : Stack) : FsmResult State :=
  { ok := true, stack := s.mapTxn (·.setTxnState .terminated) }

def completedStateReceiveNonInviteRequest (s : Stack) : FsmResult State :=
  { ok := true
    stack := s
    out := { txnStatus := .retransmission, transpInfo := s.txn.transpInfo } }

def completedStateTransportError (s : Stack) : FsmResult State :=
  { ok := true, stack := s.stopTxnTimer.mapTxn (·.setTxnState .terminated) }

def completedStateTimerJTimeout (s : Stack) : FsmResult State :=
  { ok := true, stack := s.mapTxn (·.setTxnState .terminated) }

end Actions

/-- The call of the action function a table entry points to. -/
def runAction (immediate : ImmediateTimeout State) : Action → Stack → FsmResult State
  | .handleInvalidStateEvent => handleInvalidStateEvent
  | .idleStateReceiveNonInviteRequest data => idleStateReceiveNonInviteRequest data
  | .tryingStateReceiveNonInviteRequest => tryingStateReceiveNonInviteRequest
  | .tryingStateSend1xxResponse => tryingStateSend1xxResponse
  | .tryingStateSendFinalResponse data => tryingStateSendFinalResponse immediate data
  | .tryingStateTransportError => tryingStateTransportError
  | .proceedingStateReceiveNonInviteRequest => proceedingStateReceiveNonInviteRequest
  | .proceedingStateSend1xxResponse => proceedingStateSend1xxResponse
  | .proceedingStateSendFinalResponse data => proceedingStateSendFinalResponse immediate data
  | .proceedingStateTransportError => proceedingStateTransportError
  | .completedStateReceiveNonInviteRequest => completedStateReceiveNonInviteRequest
  | .completedStateTransportError => completedStateTransportError
  | .completedStateTimerJTimeout => completedStateTimerJTimeout

/-- The non-INVITE server state machine, with the events `CbkTxnTimeout` maps
its timers to. -/
def fsm : TxnFsm State Event where
  isTerminated state := state = .terminated
  isTimeout
    | .timerJTimeOut => true
    | _ => false
  timeoutEvent
    | .timerJ => some .timerJTimeOut
    | _ => none
  invoke immediate event s := runAction immediate (table s.txn.txnState event) s

end ImsStack.Txn.SipNonInviteServerTxn
