import ImsStack.Call.CallEvents
import ImsStack.Library.TransitionSystem

/-!
The calls of `MtcCallManager` with the states that their watchers are given, and the
total call state that `CallStateProxy` keeps.
-/

namespace ImsStack.Call

open TransitionSystem

inductive PeerType where
  | mo | mt
  deriving DecidableEq, Repr

/-- `CallStateProxy::CalculateTotalCallState` from the calls that are left, with the total
found so far. -/
def calculateTotalCallState (eTotalState : CallStateName) :
    List (CallStateName × PeerType) → CallStateName
  | [] => eTotalState
  | (eState, ePeerType) :: rest =>
    match eState with
    | .established | .updating => .established
    | .incoming | .alerting => calculateTotalCallState .incoming rest
    | .outgoing => calculateTotalCallState .outgoing rest
    | .idle =>
      calculateTotalCallState (if ePeerType = .mo then .outgoing else .incoming) rest
    | .terminating => calculateTotalCallState eTotalState rest

/-- A call of the manager, with the states it has entered and those given to its
watcher. -/
structure ManagedCall where
  call : MtcCall
  ePeerType : PeerType
  entered : List CallStateName
  reported : List CallStateName
  deriving DecidableEq, Repr

/-- What `CalculateTotalCallState` reads of a call. -/
def ManagedCall.stateAndPeer (m : ManagedCall) : CallStateName × PeerType :=
  (m.call.state, m.ePeerType)

/-- `m_lstCalls` with `m_eTotalState`. -/
structure CallManager where
  calls : List ManagedCall
  eTotalState : CallStateName
  deriving DecidableEq, Repr

/-- What is known of one call while it handles an event. -/
structure StateWatch where
  eState : CallStateName
  entered : List CallStateName
  reported : List CallStateName
  eTotalState : CallStateName
  deriving DecidableEq, Repr

/-- A state is entered, or reported to the watcher and by it to the proxy, which
calculates the total from the states of that moment. -/
def StateWatch.notice (totalOf : CallStateName → CallStateName) (w : StateWatch) :
    Notice → StateWatch
  | .ran _ => w
  | .entered eState => { w with eState := eState, entered := w.entered ++ [eState] }
  | .reported eState =>
    { w with reported := w.reported ++ [eState], eTotalState := totalOf w.eState }

namespace CallManager

def new : CallManager := ⟨[], .idle⟩

/-- `CalculateTotalCallState`. -/
def total (calls : List ManagedCall) : CallStateName :=
  calculateTotalCallState .idle (calls.map ManagedCall.stateAndPeer)

/-- The total while the state of one call is `eState`. -/
def totalWith (before after : List ManagedCall) (ePeerType : PeerType)
    (eState : CallStateName) : CallStateName :=
  calculateTotalCallState .idle
    (before.map ManagedCall.stateAndPeer ++
      (eState, ePeerType) :: after.map ManagedCall.stateAndPeer)

/-- One call of the manager has handled an event, which `result` is what it comes to. -/
def callHandled (w : CallManager) (before after : List ManagedCall) (m : ManagedCall)
    (result : MtcCall × List Notice) : CallManager :=
  let watch := result.2.foldl (StateWatch.notice (totalWith before after m.ePeerType))
    ⟨m.call.state, m.entered, m.reported, w.eTotalState⟩
  { calls := before ++
      { m with call := result.1, entered := watch.entered, reported := watch.reported } :: after
    eTotalState := watch.eTotalState }

/-- `CreateCall`: the state machine enters and reports IDLE while it is constructed, before
the call joins the list. -/
def createCall (w : CallManager) (ePeerType : PeerType) : CallManager where
  calls := w.calls ++ [⟨MtcCall.new, ePeerType, [.idle], [.idle]⟩]
  eTotalState := total w.calls

end CallManager

inductive ManagerEvent where
  /-- `CreateCall` and what `HandleIncoming` returns; IDLE where it is not called. -/
  | createCall (ePeerType : PeerType) (eNextState : CallStateName)
  /-- The call at a place of the list handles an event. -/
  | callEvent (place : Nat) (e : CallEvent)
  /-- `IdleState::Start` or `StartConference`, which make the call an outgoing one. -/
  | start (place : Nat) (eNextState : CallStateName)
  | removeCall (place : Nat)

namespace CallManager

/-- The operation of a state that puts nothing off. -/
def plainOperation (eNextState : CallStateName) : CallEvent :=
  .stateOperation [] false eNextState

inductive Step : CallManager → ManagerEvent → CallManager → Prop where
  | createCall {w : CallManager} {ePeerType : PeerType} {eNextState : CallStateName}
      {fuel : Nat} {result : MtcCall × List Notice} :
      MtcCall.new.handle fuel (plainOperation eNextState) = some result →
      Step w (.createCall ePeerType eNextState)
        ((w.createCall ePeerType).callHandled w.calls []
          ⟨MtcCall.new, ePeerType, [.idle], [.idle]⟩ result)
  | callEvent {w : CallManager} {before after : List ManagedCall} {m : ManagedCall}
      {e : CallEvent} {fuel : Nat} {result : MtcCall × List Notice} :
      w.calls = before ++ m :: after → m.call.Enabled e →
      m.call.handle fuel e = some result →
      Step w (.callEvent before.length e) (w.callHandled before after m result)
  | start {w : CallManager} {before after : List ManagedCall} {m : ManagedCall}
      {eNextState : CallStateName} {fuel : Nat} {result : MtcCall × List Notice} :
      w.calls = before ++ m :: after → m.call.state = .idle →
      m.call.handle fuel (plainOperation eNextState) = some result →
      Step w (.start before.length eNextState)
        (w.callHandled before after { m with ePeerType := .mo } result)
  | removeCall {w : CallManager} {before after : List ManagedCall} {m : ManagedCall} :
      w.calls = before ++ m :: after →
      Step w (.removeCall before.length) { w with calls := before ++ after }

/-- The calls of a process. -/
def callManagers : System CallManager ManagerEvent where
  Init w := w = .new
  Step := Step

end CallManager

end ImsStack.Call
