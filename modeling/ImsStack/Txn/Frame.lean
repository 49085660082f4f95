import ImsStack.Txn.TimerSlot

/-!
What the shared operations of the transaction layer leave alone: which fields of
the stack and of the transaction starting, stopping and counting a timer change.
-/

namespace ImsStack.Txn

namespace SipStack

variable {σ : Type} (s : SipStack σ)

@[simp] theorem mapTxn_txn (f : SipTxn σ → SipTxn σ) : (s.mapTxn f).txn = f s.txn := rfl

@[simp] theorem mapTxn_inTxnPool (f : SipTxn σ → SipTxn σ) :
    (s.mapTxn f).inTxnPool = s.inTxnPool := rfl

@[simp] theorem mapTxn_txnKeyList (f : SipTxn σ → SipTxn σ) :
    (s.mapTxn f).txnKeyList = s.txnKeyList := rfl

@[simp] theorem deleteKeys_txn (key : SipTxnKey) (checkToTag : Bool) :
    (s.deleteKeys key checkToTag).txn = s.txn := rfl

@[simp] theorem deleteKeys_inTxnPool (key : SipTxnKey) (checkToTag : Bool) :
    (s.deleteKeys key checkToTag).inTxnPool = s.inTxnPool := rfl

@[simp] theorem addKey_txn (key : SipTxnKey) : (s.addKey key).txn = s.txn := rfl

@[simp] theorem addKey_inTxnPool (key : SipTxnKey) :
    (s.addKey key).inTxnPool = s.inTxnPool := rfl

@[simp] theorem stopTxnTimer_txn : s.stopTxnTimer.txn = { s.txn with timerId := none } := by
  unfold stopTxnTimer
  split
  · rename_i hid
    rw [← hid]
  · rfl

@[simp] theorem stopTxnTimer_inTxnPool : s.stopTxnTimer.inTxnPool = s.inTxnPool := by
  unfold stopTxnTimer
  split <;> rfl

@[simp] theorem stopTxnTimer_txnKeyList : s.stopTxnTimer.txnKeyList = s.txnKeyList := by
  unfold stopTxnTimer
  split <;> rfl

end SipStack

/-- What the retransmission timers leave alone when they are counted and started
again. -/
structure KeepsTxn {σ : Type} (s s' : SipStack σ) : Prop where
  txnKey : s'.txn.txnKey = s.txn.txnKey
  txnState : s'.txn.txnState = s.txn.txnState
  maxDuration : s'.txn.maxDuration = s.txn.maxDuration
  rprTxnTerminated : s'.txn.rprTxnTerminated = s.txn.rprTxnTerminated
  txnTimerValues : s'.txn.txnTimerValues = s.txn.txnTimerValues
  transpInfo : s'.txn.transpInfo = s.txn.transpInfo
  refCount : s'.txn.refCount = s.txn.refCount
  inTxnPool : s'.inTxnPool = s.inTxnPool
  txnKeyList : s'.txnKeyList = s.txnKeyList

namespace KeepsTxn

variable {σ : Type} {s s' s'' : SipStack σ}

theorem trans (h : KeepsTxn s s') (h' : KeepsTxn s' s'') : KeepsTxn s s'' where
  txnKey := h'.txnKey.trans h.txnKey
  txnState := h'.txnState.trans h.txnState
  maxDuration := h'.maxDuration.trans h.maxDuration
  rprTxnTerminated := h'.rprTxnTerminated.trans h.rprTxnTerminated
  txnTimerValues := h'.txnTimerValues.trans h.txnTimerValues
  transpInfo := h'.transpInfo.trans h.transpInfo
  refCount := h'.refCount.trans h.refCount
  inTxnPool := h'.inTxnPool.trans h.inTxnPool
  txnKeyList := h'.txnKeyList.trans h.txnKeyList

theorem countFirstExpiry (s : SipStack σ) : KeepsTxn s s.countFirstExpiry := by
  unfold SipStack.countFirstExpiry
  split
  · constructor <;> rfl
  · constructor <;> rfl

theorem restartTimer (immediate : ImmediateTimeout σ) (timer : TimerType) (duration : Nat)
    (s : SipStack σ) : KeepsTxn s (restartTimer immediate timer duration s).stack := by
  by_cases hpos : 0 < duration
  · rw [restartTimer_of_pos immediate timer hpos]
    constructor <;> rfl
  · rw [Txn.restartTimer, if_neg hpos]
    constructor <;> rfl

end KeepsTxn

theorem restartTimer_ok {σ : Type} (immediate : ImmediateTimeout σ) (timer : TimerType)
    (duration : Nat) (s : SipStack σ) : (restartTimer immediate timer duration s).ok = true := by
  unfold restartTimer
  split <;> rfl

end ImsStack.Txn
