import ImsStack.Library.TransitionSystem

/-!
The CSeq numbers of a dialog: what `SipServerTransactionState::HandleRequest` checks of
a received request against the dialog it belongs to, and what
`SipDialogState::UpdateDialogDetails` then stores.
-/

namespace ImsStack.SipCore

inductive SipMethod where
  | invite | ack | bye | cancel | info | update | prack | notify
  | subscribe | refer | message | options | register | publish | other
  deriving DecidableEq, Repr

/-- `SipDState::STATE_*`; `STATE_MAX`, which is no state, is `none` where it occurs. -/
inductive DState where
  | init | terminated | early | confirmed
  deriving DecidableEq, Repr

/-- `SipDState::ACTION_*`. -/
inductive Action where
  | ignore | transitState | destroyUsage | destroyDialog
  deriving DecidableEq, Repr

/-- `SipPrivate::MESSAGE_*`. -/
inductive Validity where
  | valid | validForked | invalid | invalid400 | invalid405 | invalid481 | invalid500
  | discarded | failed
  deriving DecidableEq, Repr

/-- `SipPrivate::INVALID_SEQ_NUM`, the number of a message without a CSeq header. -/
def invalidSeqNum : UInt32 := 0xFFFFFFFF

/-- `SipPrivate::MAX_CSEQ_VALUE`. -/
def maxCSeqValue : UInt32 := 2147483647

/-- `SipStatusCode::IsFinalSuccess`. -/
def isFinalSuccess (code : Nat) : Bool := decide (200 ≤ code ∧ code < 300)

/-- `SipMessageInfo`: a message and its direction. -/
structure SipMessageInfo where
  isOutgoing : Bool
  isRequest : Bool
  method : SipMethod
  cSeqNumber : UInt32
  deriving DecidableEq, Repr

/-- The part of `SipDialogState` that the CSeq numbers depend on. -/
structure SipDialogState where
  isCaller : Bool
  localCSeq : UInt32
  remoteCSeq : UInt32
  remoteCSeqForInvite : UInt32
  state : DState
  deriving DecidableEq, Repr

namespace SipDialogState

/-- The constructor. -/
def new (isCaller : Bool) : SipDialogState where
  isCaller := isCaller
  localCSeq := 0
  remoteCSeq := 0
  remoteCSeqForInvite := 0
  state := .init

/-- `SipDialogState::UpdateState`; the flag is `m_pSharedState->IsShared()`. -/
def updateState (d : SipDialogState) (isShared : Bool) (usageState : Option DState)
    (action : Action) : SipDialogState :=
  let nextState :=
    match action with
    | .transitState =>
      if isShared && usageState == some .terminated then none else usageState
    | .destroyUsage => if !isShared then some .terminated else none
    | .destroyDialog => some .terminated
    | .ignore => none
  match nextState with
  | some state => { d with state := state }
  | none => d

/-- `SipDialogState::UpdateDialogDetails`.  It fails only when memory runs out, which
is left out here. -/
def updateDialogDetails (d : SipDialogState) (isShared : Bool) (msgInfo : SipMessageInfo)
    (usageState : Option DState) (action : Action) : SipDialogState :=
  if d.state = .terminated then d
  else
    let d :=
      if msgInfo.isOutgoing then
        if msgInfo.isRequest && d.state == .init then
          { d with localCSeq := msgInfo.cSeqNumber }
        else d
      else if msgInfo.isRequest then
        let d := { d with remoteCSeq := msgInfo.cSeqNumber }
        if msgInfo.method = .invite then { d with remoteCSeqForInvite := d.remoteCSeq } else d
      else d
    d.updateState isShared usageState action

/-- `SipDialogState::ValidateRemoteCSeq`. -/
def validateRemoteCSeq (d : SipDialogState) (method : SipMethod) (seqNum : UInt32)
    (prevStatusCode : Nat) : Validity :=
  if seqNum = invalidSeqNum then .failed
  else if method = .ack then
    if d.remoteCSeqForInvite ≠ seqNum && !isFinalSuccess prevStatusCode then .discarded
    else .valid
  else if method = .cancel then
    if d.remoteCSeqForInvite = seqNum then .valid
    else if d.remoteCSeqForInvite < seqNum then .invalid400
    else .invalid500
  else if seqNum < d.remoteCSeq then .invalid500
  else if d.remoteCSeq = seqNum then .invalid400
  else .valid

end SipDialogState

/-- A received request, with what the rest of the stack has to say about it. -/
structure Request where
  method : SipMethod
  cSeqNumber : UInt32
  /-- The To header has a tag. -/
  hasToTag : Bool
  /-- `SipStack::TxnKey_GetStatusCode`: the last response of the transaction. -/
  prevStatusCode : Nat
  /-- `LookupDialogState` has found the dialog only as the one a NOTIFY was forked
  from. -/
  isForked : Bool
  /-- `GetDialogUsage` finds a usage of the dialog for the request. -/
  hasUsage : Bool
  isShared : Bool
  /-- What the usage makes of the request, the next state and the action, unless
  `UpdateUsageDetails` fails before it comes to the dialog. -/
  usageUpdate : Option (Option DState × Action)
  deriving DecidableEq, Repr

def Request.msgInfo (r : Request) : SipMessageInfo where
  isOutgoing := false
  isRequest := true
  method := r.method
  cSeqNumber := r.cSeqNumber

/-- The dialog state that `m_pDialogEx` of the server transaction refers to. -/
inductive Target where
  | original
  /-- The state made up for this request alone. -/
  | temporary
  deriving DecidableEq, Repr

/-- The choice of `m_pDialogEx` for a request within an existing dialog; `none` when a
NOTIFY is rejected for want of its subscription. -/
def dialogFor (d : SipDialogState) (r : Request) : Option Target :=
  if r.method = .cancel then some .temporary
  else if r.isForked && r.method == .notify then some .temporary
  else if r.method == .bye && d.isCaller && d.state == .init then some .temporary
  else if !r.hasUsage && r.method == .notify then none
  else some .original

/-- `SipDialogEx::UpdateDialogDetails` for the request. -/
def updateUsageDetails (d : SipDialogState) (r : Request) : Validity × SipDialogState :=
  match r.usageUpdate with
  | none => (.failed, d)
  | some (usageState, action) =>
    (.valid, d.updateDialogDetails r.isShared r.msgInfo usageState action)

/-- `SipServerTransactionState::HandleRequest` from the inspection of the method on;
of a temporary dialog state only the verdict matters. -/
def inspectAndUpdate (d : SipDialogState) (target : Target) (r : Request) :
    Validity × SipDialogState :=
  if r.method = .register ∨ r.method = .publish then (.invalid, d)
  else
    let (validity, updated) := updateUsageDetails d r
    let d := if target = .original then updated else d
    if validity ≠ .valid then (validity, d)
    else if r.isForked then (.validForked, d)
    else (.valid, d)

/-- `SipServerTransactionState::HandleRequest` for a request within an existing
dialog. -/
def handleRequest (d : SipDialogState) (r : Request) : Validity × SipDialogState :=
  match dialogFor d r with
  | none => (.discarded, d)
  | some target =>
    let validity := d.validateRemoteCSeq r.method r.cSeqNumber r.prevStatusCode
    if validity ≠ .valid then (validity, d) else inspectAndUpdate d target r

/-- `SipServerTransactionState::HandleRequest` for a request outside of any dialog,
which is the one that makes the dialog of a callee. -/
def handleInitialRequest (d : SipDialogState) (r : Request) : Validity × SipDialogState :=
  match r.method with
  | .ack | .notify | .bye | .cancel | .info | .update | .prack => (.discarded, d)
  | _ =>
    if r.hasToTag then (.discarded, d)
    else if maxCSeqValue < r.cSeqNumber then (.discarded, d)
    else inspectAndUpdate d .original { r with isForked := false }

end ImsStack.SipCore
