import Mathlib.Logic.Basic

/-!
A call with its state machine and its pending operations: `MtcCallStateMachine`,
`MtcPendingOperationHolder`, and the operations of `EstablishedState` that put
themselves off.  What an operation finds when it is carried out (the media, the session,
the configuration) is given with it.
-/

namespace ImsStack.Call

/-- `IMtcCall::State`. -/
inductive CallStateName where
  | idle | outgoing | incoming | alerting | established | updating | terminating
  deriving DecidableEq, Repr

inductive CallType where
  | unknown | voip | vt | rtt | videoRtt
  deriving DecidableEq, Repr

inductive QosLossPolicy where
  | maintain | modify | release
  deriving DecidableEq, Repr

inductive MediaType where
  | audio | video | text
  deriving DecidableEq, Repr

/-- The operations that the states of a call put off. -/
inductive Operation where
  | hold
  | resume
  | update
  | onIpcanChanged
  | onReceivingMediaDataFailed (eMediaType : MediaType)
  | onVideoLowestBitRate
  | qosReserveFailed (eNextAction : QosLossPolicy)
  /-- `OnSrvccStateUpdated` for a cancelled or failed handover. -/
  | onSrvccRecovered
  | sessionUpdateReceived
  deriving DecidableEq, Repr

/-- What an operation finds when it is carried out in ESTABLISHED. -/
structure Answers where
  callType : CallType
  /-- The audio is inactive already. -/
  isAudioInactive : Bool
  /-- `UpdatingInfo::IsValidHoldDirection` or `IsValidResumeDirection`. -/
  isValidDirection : Bool
  /-- `KEY_ENABLE_SEND_REINVITE_ON_RAT_CHANGE_BOOL`. -/
  sendsReinviteOnRatChange : Bool
  hasSession : Bool
  /-- `IMtcSession::Update` has sent its request. -/
  isUpdateSent : Bool
  /-- The received update is not answered for good at once. -/
  isUpdateLeftOpen : Bool
  deriving DecidableEq, Repr

/-- An operation in the list of `MtcPendingOperationHolder`. -/
structure PendingOperation where
  operation : Operation
  answers : Answers
  deriving DecidableEq, Repr

/-- What an operation of `EstablishedState` returns, and what it puts off. -/
structure Outcome where
  next : CallStateName
  putOff : Option PendingOperation
  deriving DecidableEq, Repr

namespace EstablishedState

/-- The operation stays in ESTABLISHED. -/
def stay : Outcome := ⟨.established, none⟩

/-- An operation that `ShouldPendOperation` puts off is pushed as it is. -/
def pendOr (shouldPend : Bool) (p : PendingOperation) (outcome : Outcome) : Outcome :=
  if shouldPend then ⟨.established, some p⟩ else outcome

/-- `EstablishedState::HandleUpdate` where its failure keeps the state. -/
def handleUpdate (answers : Answers) : Outcome :=
  if answers.isUpdateSent then ⟨.updating, none⟩ else stay

/-- `EstablishedState::Hold`. -/
def hold (shouldPend : Bool) (answers : Answers) : Outcome :=
  pendOr shouldPend ⟨.hold, answers⟩ <|
    if answers.isAudioInactive then stay
    else if !answers.isValidDirection then stay
    else handleUpdate answers

/-- `EstablishedState::Resume`. -/
def resume (shouldPend : Bool) (answers : Answers) : Outcome :=
  pendOr shouldPend ⟨.resume, answers⟩ <|
    if !answers.isValidDirection then stay else handleUpdate answers

/-- `EstablishedState::Update`. -/
def update (shouldPend : Bool) (answers : Answers) : Outcome :=
  pendOr shouldPend ⟨.update, answers⟩ (handleUpdate answers)

/-- `EstablishedState::OnIpcanChanged`. -/
def onIpcanChanged (shouldPend : Bool) (answers : Answers) : Outcome :=
  if !answers.sendsReinviteOnRatChange then stay
  else pendOr shouldPend ⟨.onIpcanChanged, answers⟩ (handleUpdate answers)

/-- `EstablishedState::OnReceivingMediaDataFailed`; `Downgrade` is an `Update`. -/
def onReceivingMediaDataFailed (shouldPend : Bool) (eMediaType : MediaType)
    (answers : Answers) : Outcome :=
  match eMediaType with
  | .audio => ⟨.terminating, none⟩
  | .video => if answers.callType = .vt then update shouldPend answers else stay
  | .text => if answers.callType = .rtt then update shouldPend answers else stay

/-- `EstablishedState::OnVideoLowestBitRate`. -/
def onVideoLowestBitRate (shouldPend : Bool) (answers : Answers) : Outcome :=
  if answers.callType = .vt ∨ answers.callType = .videoRtt then update shouldPend answers
  else stay

/-- `EstablishedState::QosReserveFailed`. -/
def qosReserveFailed (shouldPend : Bool) (eNextAction : QosLossPolicy) (answers : Answers) :
    Outcome :=
  match eNextAction with
  | .release => ⟨.terminating, none⟩
  | .modify => if answers.callType ≠ .voip then update shouldPend answers else stay
  | .maintain => stay

/-- `EstablishedState::SendUpdateBySrvcc`, which does not ask whether to put it off. -/
def sendUpdateBySrvcc (answers : Answers) : Outcome :=
  if !answers.hasSession then stay else handleUpdate answers

/-- `EstablishedState::SessionUpdateReceived`. -/
def sessionUpdateReceived (answers : Answers) : Outcome :=
  if answers.isUpdateLeftOpen then ⟨.updating, none⟩ else stay

/-- A pending operation is carried out; `shouldPend` is `ShouldPendOperation`. -/
def run (shouldPend : Bool) (p : PendingOperation) : Outcome :=
  match p.operation with
  | .hold => hold shouldPend p.answers
  | .resume => resume shouldPend p.answers
  | .update => update shouldPend p.answers
  | .onIpcanChanged => onIpcanChanged shouldPend p.answers
  | .onReceivingMediaDataFailed eMediaType =>
    onReceivingMediaDataFailed shouldPend eMediaType p.answers
  | .onVideoLowestBitRate => onVideoLowestBitRate shouldPend p.answers
  | .qosReserveFailed eNextAction => qosReserveFailed shouldPend eNextAction p.answers
  | .onSrvccRecovered => sendUpdateBySrvcc p.answers
  | .sessionUpdateReceived => sessionUpdateReceived p.answers

end EstablishedState

/-- What happens while an operation of the call is carried out. -/
inductive Notice where
  /-- A pending operation is taken from the list and run. -/
  | ran (p : PendingOperation)
  /-- `m_pCurrentState` is replaced. -/
  | entered (eState : CallStateName)
  /-- `OnStateTransition` of the watcher. -/
  | reported (eState : CallStateName)
  deriving DecidableEq, Repr

/-- The part of `MtcCall` that its pending operations depend on. -/
structure MtcCall where
  state : CallStateName
  pendingOperations : List PendingOperation
  /-- `ISession::IsSessionRefreshInProgress`. -/
  isSessionRefreshInProgress : Bool
  /-- `TIMER_DELAY_UPDATE_AFTER_CONNECTED` is active. -/
  isInUpdateAfterConnectedDelay : Bool
  /-- The runs of the pending operations that the current state has posted. -/
  postedRuns : Nat
  deriving DecidableEq, Repr

namespace MtcCall

/-- A call that has been created. -/
def new : MtcCall where
  state := .idle
  pendingOperations := []
  isSessionRefreshInProgress := false
  isInUpdateAfterConnectedDelay := false
  postedRuns := 0

/-- `EstablishedState::ShouldPendOperation`. -/
def shouldPendOperation (c : MtcCall) : Bool :=
  c.isSessionRefreshInProgress || c.isInUpdateAfterConnectedDelay

/-- `MtcPendingOperationHolder::PushPendingOperation`. -/
def pushPendingOperation (c : MtcCall) (p : PendingOperation) : MtcCall :=
  { c with pendingOperations := c.pendingOperations ++ [p] }

/-- The current state is replaced; `~EstablishedState` releases the runs it has
posted. -/
def replaceState (c : MtcCall) (eState : CallStateName) : MtcCall :=
  { c with state := eState, postedRuns := 0 }

def postRun (c : MtcCall) : MtcCall := { c with postedRuns := c.postedRuns + 1 }

/-- What an operation has put off joins the list. -/
def accept (c : MtcCall) (outcome : Outcome) : MtcCall :=
  match outcome.putOff with
  | some p => c.pushPendingOperation p
  | none => c

mutual

/-- `MtcCall::RunPendingOperationIfPossible`; `none` when the fuel does not suffice. -/
def runPendingOperationIfPossible : Nat → MtcCall → Option (MtcCall × List Notice)
  | 0, _ => none
  | fuel + 1, c =>
    match c.pendingOperations with
    | [] => some (c, [])
    | p :: rest =>
      if c.state = .established ∧ c.isInUpdateAfterConnectedDelay = false then
        let outcome := EstablishedState.run c.shouldPendOperation p
        let c := { c with pendingOperations := rest }.accept outcome
        (transitToState fuel c outcome.next).bind fun transited : MtcCall × List Notice =>
          (runPendingOperationIfPossible fuel transited.1).map fun later : MtcCall × List Notice =>
            (later.1, .ran p :: transited.2 ++ later.2)
      else some (c, [])

/-- `MtcCallStateMachine::TransitToState`, with the entry actions of the states that
run operations: only `EstablishedState::OnEnter`. -/
def transitToState : Nat → MtcCall → CallStateName → Option (MtcCall × List Notice)
  | 0, _, _ => none
  | fuel + 1, c, eState =>
    if c.state = eState then some (c, [])
    else
      let c := c.replaceState eState
      if eState = .established then
        if c.shouldPendOperation then some (c.postRun, [.entered eState, .reported eState])
        else
          (runPendingOperationIfPossible fuel c).map fun ran : MtcCall × List Notice =>
            (ran.1, .entered eState :: ran.2 ++ [.reported eState])
      else some (c, [.entered eState, .reported eState])

end

end MtcCall

end ImsStack.Call
