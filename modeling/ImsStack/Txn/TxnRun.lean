import ImsStack.Library.TransitionSystem
import ImsStack.Txn.SipTxn

/-!
The runs of one transaction.  A run starts when the transaction is created and
goes on with messages, transport errors and expired timers put through
`SipTxn::InvokeFsm`, and with what the rest of the stack may do in between.
-/

namespace ImsStack.Txn

open TransitionSystem

/-- The values `SipTimerValuesHelper` supplies, once they are unsigned. -/
def SipTxnTimerValues.InRange (values : SipTxnTimerValues) : Prop :=
  ∀ timer, 0 < values.getTimerValue timer ∧ values.getTimerValue timer < 2 ^ 31

theorem SipTimerValues.Positive.inRange {values : SipTimerValues} (h : values.Positive) :
    values.toTxnTimerValues.InRange := by
  intro timer
  have hpos : 0 < (values.getValue timer).toInt := h timer
  simp only [SipTimerValues.toTxnTimerValues]
  rw [BitVec.toInt_eq_toNat_cond] at hpos
  have hlt : (values.getValue timer).toNat < 2 ^ 32 := (values.getValue timer).isLt
  split at hpos <;> omega

/-- A transaction as its constructor leaves it. -/
def newTxn {σ : Type} (idle : σ) (key : SipTxnKey) (values : SipTxnTimerValues) : SipTxn σ where
  txnKey := key
  txnState := idle
  retransmissionCount := 0
  timerType := .timerTypeInvalid
  timerId := none
  maxDuration := 0
  durationExpired := 0
  currentDuration := 0
  rprTxnTerminated := false
  ackReceived := false
  txnTimerValues := values
  transpInfo := none
  refCount := 1

/-- The stack around a new transaction: the transaction is in no pool and runs
no timer. -/
def newStack {σ : Type} (txn : SipTxn σ) (keys : List SipTxnKey) (nextTimerId : Nat) :
    SipStack σ where
  txn := txn
  inTxnPool := false
  txnKeyList := keys
  runningTimers := []
  nextTimerId := nextTimerId

/-- What can happen to a transaction. -/
inductive RunEvent (ε : Type) where
  /-- A message sent by the user, a message received or a transport error. -/
  | invokeFsm (event : ε)
  /-- A timer of the platform runs out. -/
  | timerExpired (timer : RunningTimer)
  /-- A message of the transaction is handed to a transport. -/
  | msgSent (transpInfo : Option TranspProtocol)
  /-- The user changes the timer values of a server transaction. -/
  | updateSipTimers (context : SipTimerContext)
  /-- A PRACK request arrives and opens a transaction of its own. -/
  | prackReceived (newTxnKey : SipTxnKey)
  /-- Other transactions change the list of keys. -/
  | otherTxns (keys : List SipTxnKey)
  /-- The caller takes the transaction out of the pool. -/
  | removeTxn

namespace SipStack

variable {σ : Type}

/-- The stack when the timer with an id has expired: the platform no longer
runs it. -/
def dropTimer (s : SipStack σ) (timer : RunningTimer) : SipStack σ :=
  { s with runningTimers := s.runningTimers.erase timer }

/-- What the arrival of a PRACK request does to the INVITE server transaction:
when the stored key its RAck header matches is one this transaction is fetched
by, the timer is stopped and the matching keys are deleted. -/
def prackReceived (newTxnKey : SipTxnKey) (s : SipStack σ) : SipStack σ :=
  match searchTxnKey s.txnKeyList newTxnKey with
  | none => s
  | some invTxnKey =>
    if s.inTxnPool && s.txn.txnKey.compareKeys invTxnKey then
      s.stopTxnTimer.deleteKeys newTxnKey true
    else s

end SipStack

/-- `TimerExpired`: the callback of a running timer. -/
def TxnFsm.expire {σ ε : Type} (fsm : TxnFsm σ ε) (timer : RunningTimer) (s : SipStack σ) :
    SipStack σ × TimeoutOutcome :=
  cbkTxnTimeout fsm (fun timer s => (cbkTxnTimeout fsm (fun _ s => s) timer none s).1)
    timer.timerType (some timer.id) (s.dropTimer timer)

/-- The next expiry: that of the timer running longest.  Without a timer nothing
happens. -/
def TxnFsm.expireNext {σ ε : Type} (fsm : TxnFsm σ ε) (s : SipStack σ) : SipStack σ :=
  match s.runningTimers with
  | [] => s
  | timer :: _ => (fsm.expire timer s).1

namespace TxnType

def isServer : TxnType → Bool
  | .inviteServer | .nonInviteServer => true
  | .inviteClient | .nonInviteClient => false

end TxnType

/-- The steps of a run.  Timer values are updated for server transactions only;
keys stored for other transactions do not fetch this one from the pool; and only
a terminated transaction is taken out of it. -/
inductive TxnStep {σ ε : Type} (fsm : TxnFsm σ ε) (txnType : TxnType) :
    SipStack σ → RunEvent ε → SipStack σ → Prop where
  | invokeFsm (s : SipStack σ) (event : ε) :
      fsm.isTimeout event = false →
      TxnStep fsm txnType s (.invokeFsm event) (fsm.invokeFsm event s).stack
  | timerExpired (s : SipStack σ) (timer : RunningTimer) :
      timer ∈ s.runningTimers →
      TxnStep fsm txnType s (.timerExpired timer) (fsm.expire timer s).1
  | msgSent (s : SipStack σ) (transpInfo : Option TranspProtocol) :
      TxnStep fsm txnType s (.msgSent transpInfo)
        (s.mapTxn fun txn => { txn with transpInfo := transpInfo })
  | updateSipTimers (s : SipStack σ) (options : TimerType → Bool) (values : SipTimerValues) :
      txnType.isServer → values.Positive →
      TxnStep fsm txnType s (.updateSipTimers ⟨options, values.toTxnTimerValues⟩)
        (s.mapTxn fun txn => { txn with
          txnTimerValues :=
            txn.txnTimerValues.updateSipTimers ⟨options, values.toTxnTimerValues⟩ })
  | prackReceived (s : SipStack σ) (newTxnKey : SipTxnKey) :
      txnType = .inviteServer →
      TxnStep fsm txnType s (.prackReceived newTxnKey) (s.prackReceived newTxnKey)
  | otherTxns (s : SipStack σ) (keys : List SipTxnKey) :
      (∀ key ∈ keys, key ∈ s.txnKeyList ∨ s.txn.txnKey.compareKeys key = false) →
      TxnStep fsm txnType s (.otherTxns keys) { s with txnKeyList := keys }
  | removeTxn (s : SipStack σ) :
      fsm.isTerminated s.txn.txnState →
      TxnStep fsm txnType s .removeTxn s.removeFromTxnPool

/-- The runs of a transaction of one type, from its creation with any strictly
positive timer values. -/
def txnSystem {σ ε : Type} (fsm : TxnFsm σ ε) (txnType : TxnType) (idle : σ) :
    System (SipStack σ) (RunEvent ε) where
  Init s := ∃ key values keys nextTimerId, SipTimerValues.Positive values ∧
    s = newStack (newTxn idle key values.toTxnTimerValues) keys nextTimerId
  Step := TxnStep fsm txnType

/-- Timer coverage in one state of the stack: a transaction in a state that
leaves only by time has exactly one armed timer, and the expiry of an armed
timer reaches an action of the table and is not swallowed on the way. -/
structure TimerCovered {σ ε : Type} (fsm : TxnFsm σ ε) (leavesOnlyByTime : σ → Bool)
    (hasAction : σ → ε → Prop) (s : SipStack σ) : Prop where
  armed : leavesOnlyByTime s.txn.txnState →
    ∃ timer, s.runningTimers = [timer] ∧ s.txn.timerId = some timer.id
  handled : ∀ timer ∈ s.runningTimers,
    (∃ event, fsm.timeoutEvent timer.timerType = some event ∧
      hasAction s.txn.txnState event) ∧
    ((fsm.expire timer s).2 = .notified ∨ (fsm.expire timer s).2 = .retransmitted)

end ImsStack.Txn
