import ImsStack.Txn.RefCount
import ImsStack.Txn.TimerCoverage

/-!
The life of a transaction under its references: `new SipTxn` gives its creator
one, the pool takes its own, and every handler takes one for the time it works on
the transaction.
-/

namespace ImsStack.Txn

open TransitionSystem

/-- A transaction, and whether its creator still holds the reference `new` gave
it. -/
structure TxnLife (σ : Type) where
  stack : SipStack σ
  held : Bool

/-- The steps of a life.  `HandleClientTxnSend` and `HandleServerTxnRecv` create a
transaction, put the first message through its state machine and give their
reference back; on a transaction of the pool a handler takes a reference for the
time of the call. -/
inductive LifeStep {σ ε : Type} (fsm : TxnFsm σ ε) (txnType : TxnType) :
    TxnLife σ → RunEvent ε → TxnLife σ → Prop where
  | create (s : SipStack σ) (event : ε) :
      fsm.isTimeout event = false →
      LifeStep fsm txnType ⟨s, true⟩ (.invokeFsm event)
        ⟨(fsm.invokeFsm event s).stack.sipDelete, false⟩
  | handle (s : SipStack σ) (event : ε) :
      s.inTxnPool = true → fsm.isTimeout event = false →
      LifeStep fsm txnType ⟨s, false⟩ (.invokeFsm event)
        ⟨(fsm.invokeFsm event s.increment).stack.sipDelete, false⟩
  | other (s s' : SipStack σ) (e : RunEvent ε) (held : Bool) :
      (∀ event, e ≠ .invokeFsm event) → TxnStep fsm txnType s e s' →
      LifeStep fsm txnType ⟨s, held⟩ e ⟨s', held⟩

/-- The lives of the transactions of one type. -/
def lifeSystem {σ ε : Type} (fsm : TxnFsm σ ε) (txnType : TxnType) (idle : σ) :
    System (TxnLife σ) (RunEvent ε) where
  Init l := l.held = true ∧ (txnSystem fsm txnType idle).Init l.stack
  Step := LifeStep fsm txnType

/-- No callback of the life reports a timed out provisional response of a
transaction that lives on. -/
def noRprTimeout {σ ε : Type} (notifiesRprTimeout : TimerType → SipStack σ → Prop)
    (l : TxnLife σ) (e : RunEvent ε) : Prop :=
  ∀ timer, e = .timerExpired timer → l.stack.inTxnPool = true →
    some timer.id = l.stack.txn.timerId → ¬ notifiesRprTimeout timer.timerType l.stack

/-- Every reference is accounted for. -/
def RefsCounted {σ : Type} (l : TxnLife σ) : Prop :=
  l.stack.txn.refCount =
    (if l.held then 1 else 0) + if l.stack.inTxnPool then poolReferences else 0

/-- The count is what the creator and the pool hold; when it is zero it stays so,
whatever still happens. -/
structure CountedLife {σ ε : Type} (fsm : TxnFsm σ ε) (txnType : TxnType) (l : TxnLife σ) :
    Prop where
  counted : RefsCounted l
  deleted : l.stack.txn.refCount = 0 ↔ l.held = false ∧ l.stack.inTxnPool = false
  deletedOnce : ∀ e l', l.stack.txn.refCount = 0 → LifeStep fsm txnType l e l' →
    l'.stack.txn.refCount = 0

/-- What the first message leaves: nothing has happened, or the transaction is in
the pool. -/
def Opened {σ : Type} (idle : σ) (s s' : SipStack σ) : Prop :=
  KeepsRefs s s' ∨ s'.txn.refCount = s.txn.refCount + poolReferences ∧ s'.inTxnPool = true ∧
    s'.txn.txnTimerValues = s.txn.txnTimerValues ∧ s'.txn.txnState ≠ idle

/-- What has to be shown of a state machine for the references of its
transactions to be counted. -/
structure RefDiscipline {σ ε : Type} (fsm : TxnFsm σ ε) (idle : σ)
    (notifiesRprTimeout : TimerType → SipStack σ → Prop) : Prop where
  idle_live : fsm.isTerminated idle = false
  opens : ∀ immediate s event, s.txn.txnTimerValues.InRange → s.txn.txnState = idle →
    fsm.isTimeout event = false → Opened idle s (fsm.invoke immediate event s).stack
  handles : ∀ immediate s event, s.txn.txnTimerValues.InRange → s.txn.txnState ≠ idle →
    fsm.isTimeout event = false →
    KeepsRefs s (fsm.invoke immediate event s).stack ∧
      (fsm.invoke immediate event s).stack.txn.txnState ≠ idle
  notifies : ∀ timer s, notifiesRprTimeout timer s → fsm.isTerminated s.txn.txnState = false ∧
    ∃ event, fsm.timeoutEvent timer = some event
  frame : ∀ timer s, notifiesRprTimeout timer
    (s.increment.mapTxn fun txn => { txn with timerId := none }) ↔ notifiesRprTimeout timer s
  drop : ∀ timer timer' s, notifiesRprTimeout timer (s.dropTimer timer') ↔
    notifiesRprTimeout timer s
  timeouts : ∀ immediate timer s event, fsm.timeoutEvent timer = some event →
    fsm.isTerminated s.txn.txnState = false →
    TimeoutSpec fsm s (notifiesRprTimeout timer s) (fsm.invoke immediate event s)

/-- What a callback leaves alone. -/
structure CallbackFrame {σ ε : Type} (fsm : TxnFsm σ ε) (s s' : SipStack σ) : Prop where
  txnTimerValues : s'.txn.txnTimerValues = s.txn.txnTimerValues
  inTxnPool : s'.inTxnPool = true → s.inTxnPool = true
  txnState : s'.txn.txnState = s.txn.txnState ∨ fsm.isTerminated s'.txn.txnState = true

namespace RefDiscipline

variable {σ ε : Type} {fsm : TxnFsm σ ε} {txnType : TxnType} {idle : σ}
  {notifiesRprTimeout : TimerType → SipStack σ → Prop}

theorem balanced_iff (d : RefDiscipline fsm idle notifiesRprTimeout)
    (immediate : ImmediateTimeout σ) (timer : TimerType) (timerId : Option Nat)
    (s : SipStack σ) :
    Balanced s (cbkTxnTimeout fsm immediate timer timerId s).1 ↔
      ¬ (s.inTxnPool = true ∧ timerId = s.txn.timerId ∧ notifiesRprTimeout timer s) :=
  cbkTxnTimeout_balanced_iff (d.frame timer s) (d.notifies timer s) (d.timeouts immediate timer)

/-- The exits before the action change nothing but the slot, the count and the
pool. -/
theorem cbkTxnTimeout_of_no_action (immediate : ImmediateTimeout σ) {timer : TimerType}
    {timerId : Option Nat} {s : SipStack σ}
    (h : ¬ (s.inTxnPool = true ∧ timerId = s.txn.timerId ∧
      fsm.isTerminated s.txn.txnState = false ∧ ∃ event, fsm.timeoutEvent timer = some event)) :
    ∃ refCount timerId' inTxnPool, (inTxnPool = true → s.inTxnPool = true) ∧
      (cbkTxnTimeout fsm immediate timer timerId s).1 =
        { s with
          txn := { s.txn with refCount := refCount, timerId := timerId' }
          inTxnPool := inTxnPool } := by
  unfold cbkTxnTimeout
  by_cases hpool : s.inTxnPool = true
  · rw [if_neg (by simp [hpool])]
    by_cases hid : timerId = s.txn.timerId
    · by_cases hlive : fsm.isTerminated s.txn.txnState = false
      · have hevent : fsm.timeoutEvent timer = none := by
          refine Option.eq_none_iff_forall_ne_some.mpr fun event hevent => h ?_
          exact ⟨hpool, hid, hlive, event, hevent⟩
        simp only [SipStack.increment, SipStack.mapTxn, hid, ne_eq, not_true_eq_false, ↓reduceIte,
          hlive, Bool.false_eq_true, hevent]
        exact ⟨_, none, s.inTxnPool, id, rfl⟩
      · simp only [SipStack.increment, SipStack.mapTxn, hid, ne_eq, not_true_eq_false, ↓reduceIte,
          hlive, SipStack.removeFromTxnPool, hpool]
        exact ⟨_, none, false, (by rintro ⟨⟩), rfl⟩
    · simp only [SipStack.increment, SipStack.mapTxn, ne_eq, hid, not_false_eq_true, ↓reduceIte]
      exact ⟨_, s.txn.timerId, s.inTxnPool, id, rfl⟩
  · rw [if_pos (by simp [hpool])]
    exact ⟨s.txn.refCount, s.txn.timerId, s.inTxnPool, id, rfl⟩

@[simp] theorem removeFromTxnPool_txnTimerValues (s : SipStack σ) :
    s.removeFromTxnPool.txn.txnTimerValues = s.txn.txnTimerValues := by
  unfold SipStack.removeFromTxnPool
  split <;> rfl

@[simp] theorem removeFromTxnPool_txnState (s : SipStack σ) :
    s.removeFromTxnPool.txn.txnState = s.txn.txnState := by
  unfold SipStack.removeFromTxnPool
  split <;> rfl

theorem callbackFrame (d : RefDiscipline fsm idle notifiesRprTimeout)
    (immediate : ImmediateTimeout σ) (timer : TimerType) (timerId : Option Nat)
    (s : SipStack σ) : CallbackFrame fsm s (cbkTxnTimeout fsm immediate timer timerId s).1 := by
  by_cases haction : s.inTxnPool = true ∧ timerId = s.txn.timerId ∧
      fsm.isTerminated s.txn.txnState = false ∧ ∃ event, fsm.timeoutEvent timer = some event
  · obtain ⟨hpool, hid, hlive, event, hevent⟩ := haction
    have hspec := d.timeouts immediate timer
      (s.increment.mapTxn fun txn => { txn with timerId := none }) event hevent hlive
    have hvalues := hspec.keepsRefs.txnTimerValues
    rw [cbkTxnTimeout_of_slot immediate s hpool hid.symm hlive hevent]
    dsimp only
    split
    · exact ⟨hvalues, fun _ => hpool, hspec.txnState⟩
    · split
      · refine ⟨?_, fun _ => hpool, .inr ?_⟩
        · exact (removeFromTxnPool_txnTimerValues _).trans hvalues
        · change fsm.isTerminated (SipStack.removeFromTxnPool _).txn.txnState = true
          rw [removeFromTxnPool_txnState]
          assumption
      · split
        · exact ⟨hvalues, fun _ => hpool, hspec.txnState⟩
        · exact ⟨hvalues, fun _ => hpool, hspec.txnState⟩
  · obtain ⟨refCount, timerId', inTxnPool, hpool, hout⟩ :=
      cbkTxnTimeout_of_no_action immediate haction
    rw [hout]
    exact ⟨rfl, hpool, .inl rfl⟩

/-- What every life keeps true. -/
structure LifeInv (idle : σ) (l : TxnLife σ) : Prop where
  values : l.stack.txn.txnTimerValues.InRange
  counted : RefsCounted l
  held : l.held = true → l.stack.txn.txnState = idle ∧ l.stack.inTxnPool = false
  pooled : l.stack.inTxnPool = true → l.stack.txn.txnState ≠ idle

theorem lifeInv_init (l : TxnLife σ) (h : (lifeSystem fsm txnType idle).Init l) :
    LifeInv idle l := by
  obtain ⟨hheld, key, values, keys, nextTimerId, hpos, hstack⟩ := h
  refine ⟨?_, ?_, fun _ => ?_, fun h => ?_⟩
  · rw [hstack]
    exact hpos.inRange
  · simp [RefsCounted, hheld, hstack, newStack, newTxn]
  · rw [hstack]
    exact ⟨rfl, rfl⟩
  · rw [hstack] at h
    exact absurd h Bool.false_ne_true

theorem lifeInv_expire (d : RefDiscipline fsm idle notifiesRprTimeout) {s : SipStack σ}
    {held : Bool} (h : LifeInv idle ⟨s, held⟩) (timer : RunningTimer)
    (hallowed : noRprTimeout notifiesRprTimeout ⟨s, held⟩ (.timerExpired (ε := ε) timer)) :
    LifeInv idle ⟨(fsm.expire timer s).1, held⟩ := by
  have hbalanced : Balanced (s.dropTimer timer) (fsm.expire timer s).1 := by
    refine (d.balanced_iff _ _ _ _).mpr fun h' => ?_
    exact hallowed timer rfl h'.1 h'.2.1 ((d.drop _ _ _).mp h'.2.2)
  have hframe : CallbackFrame fsm (s.dropTimer timer) (fsm.expire timer s).1 :=
    d.callbackFrame _ _ _ _
  have hcounted : s.txn.refCount = (if held then 1 else 0) +
      if s.inTxnPool then poolReferences else 0 := h.counted
  refine ⟨?_, ?_, fun hheld => ?_, fun hpool => ?_⟩
  · rw [hframe.txnTimerValues]
    exact h.values
  · change (fsm.expire timer s).1.txn.refCount = _
    rw [hbalanced]
    change s.txn.refCount - (if s.inTxnPool = true ∧ _ then _ else _) = _
    rw [hcounted]
    cases hafter : (fsm.expire timer s).1.inTxnPool with
    | true =>
        have hpool : s.inTxnPool = true := hframe.inTxnPool hafter
        simp [hpool]
    | false => by_cases hpool : s.inTxnPool = true <;> simp [hpool]
  · have hidle : s.txn.txnState = idle := (h.held hheld).1
    have hpool : (s.dropTimer timer).inTxnPool = false := (h.held hheld).2
    have hout : (fsm.expire timer s).1 = s.dropTimer timer := by
      rw [TxnFsm.expire, cbkTxnTimeout, if_pos (by rw [hpool]; rfl)]
    rw [hout]
    exact ⟨hidle, hpool⟩
  · have hidle : s.txn.txnState ≠ idle := h.pooled (hframe.inTxnPool hpool)
    rcases hframe.txnState with hstate | hterm
    · rw [hstate]
      exact hidle
    · rintro hstate
      rw [hstate, d.idle_live] at hterm
      exact absurd hterm Bool.false_ne_true

theorem lifeInv_create (d : RefDiscipline fsm idle notifiesRprTimeout) {s : SipStack σ}
    (h : LifeInv idle ⟨s, true⟩) (event : ε) (hevent : fsm.isTimeout event = false) :
    LifeInv idle ⟨(fsm.invokeFsm event s).stack.sipDelete, false⟩ := by
  have hidle : s.txn.txnState = idle := (h.held rfl).1
  have hpool : s.inTxnPool = false := (h.held rfl).2
  have hcounted : s.txn.refCount = 1 := by
    have := h.counted
    simpa [RefsCounted, hpool] using this
  rcases d.opens _ s event h.values hidle hevent with hkeeps | ⟨hcount, hin, hvalues, hstate⟩
  · have hcount : (fsm.invokeFsm event s).stack.txn.refCount = s.txn.refCount := hkeeps.refCount
    have hout : (fsm.invokeFsm event s).stack.inTxnPool = false := hkeeps.inTxnPool.trans hpool
    refine ⟨?_, ?_, nofun, fun h => ?_⟩
    · exact hkeeps.txnTimerValues ▸ h.values
    · simp [RefsCounted, SipStack.sipDelete, hcount, hout, hcounted]
    · exact absurd (hout.symm.trans h) Bool.false_ne_true
  · have hcount' : (fsm.invokeFsm event s).stack.txn.refCount =
        s.txn.refCount + poolReferences := hcount
    have hin' : (fsm.invokeFsm event s).stack.inTxnPool = true := hin
    refine ⟨?_, ?_, nofun, fun _ => hstate⟩
    · exact hvalues ▸ h.values
    · simp [RefsCounted, SipStack.sipDelete, hcount', hin', hcounted]

theorem lifeInv_handle (d : RefDiscipline fsm idle notifiesRprTimeout) {s : SipStack σ}
    (h : LifeInv idle ⟨s, false⟩) (event : ε) (hpool : s.inTxnPool = true)
    (hevent : fsm.isTimeout event = false) :
    LifeInv idle ⟨(fsm.invokeFsm event s.increment).stack.sipDelete, false⟩ := by
  obtain ⟨hkeeps, hstate⟩ := d.handles
    (fun timer s => (cbkTxnTimeout fsm (fun _ s => s) timer none s).1) s.increment event h.values
    (h.pooled hpool) hevent
  have hcount : (fsm.invokeFsm event s.increment).stack.txn.refCount = s.txn.refCount + 1 :=
    hkeeps.refCount
  have hin : (fsm.invokeFsm event s.increment).stack.inTxnPool = true :=
    hkeeps.inTxnPool.trans hpool
  have hcounted : s.txn.refCount = poolReferences := by
    have := h.counted
    simpa [RefsCounted, hpool] using this
  refine ⟨?_, ?_, nofun, fun _ => hstate⟩
  · exact hkeeps.txnTimerValues ▸ h.values
  · simp [RefsCounted, SipStack.sipDelete, hcount, hin, hcounted]

theorem lifeInv_prackReceived {s : SipStack σ} {held : Bool} (h : LifeInv idle ⟨s, held⟩)
    (newTxnKey : SipTxnKey) : LifeInv idle ⟨s.prackReceived newTxnKey, held⟩ := by
  unfold SipStack.prackReceived
  split
  · exact h
  · split
    · refine ⟨?_, ?_, fun hheld => ?_, fun hpool => ?_⟩
      · simpa using h.values
      · simpa [RefsCounted] using h.counted
      · simpa using h.held hheld
      · simpa using h.pooled (by simpa using hpool)
    · exact h

theorem lifeInv_removeTxn {s : SipStack σ} {held : Bool} (h : LifeInv idle ⟨s, held⟩) :
    LifeInv idle ⟨s.removeFromTxnPool, held⟩ := by
  by_cases hpool : s.inTxnPool = true
  · have hcounted : s.txn.refCount = (if held then 1 else 0) + poolReferences := by
      have := h.counted
      simpa [RefsCounted, hpool] using this
    rw [SipStack.removeFromTxnPool, if_pos hpool]
    refine ⟨h.values, ?_, fun hheld => ⟨(h.held hheld).1, rfl⟩, (by rintro ⟨⟩)⟩
    simp [RefsCounted, hcounted]
  · rw [SipStack.removeFromTxnPool, if_neg hpool]
    exact h

theorem lifeInv_step (d : RefDiscipline fsm idle notifiesRprTimeout) {l l' : TxnLife σ}
    {e : RunEvent ε} (h : LifeInv idle l) (hallowed : noRprTimeout notifiesRprTimeout l e)
    (hstep : LifeStep fsm txnType l e l') : LifeInv idle l' := by
  cases hstep with
  | create s event hevent => exact lifeInv_create d h event hevent
  | handle s event hpool hevent => exact lifeInv_handle d h event hpool hevent
  | other s s' e held hother hstep =>
      cases hstep with
      | invokeFsm event _ => exact absurd rfl (hother event)
      | timerExpired timer _ => exact lifeInv_expire d h timer hallowed
      | msgSent transpInfo => exact ⟨h.values, h.counted, h.held, h.pooled⟩
      | updateSipTimers options values _ hpos =>
          exact ⟨TimerDiscipline.updateSipTimers_inRange h.values hpos.inRange options,
            h.counted, h.held, h.pooled⟩
      | prackReceived newTxnKey _ => exact lifeInv_prackReceived h newTxnKey
      | otherTxns keys _ => exact ⟨h.values, h.counted, h.held, h.pooled⟩
      | removeTxn hterm => exact lifeInv_removeTxn h

/-- A deleted transaction stays deleted: nobody can reach it any more, and a timer
that is still running finds no transaction. -/
theorem deleted_step {l l' : TxnLife σ} {e : RunEvent ε}
    (hheld : l.held = false) (hpool : l.stack.inTxnPool = false)
    (hstep : LifeStep fsm txnType l e l') : l'.stack.txn.refCount = l.stack.txn.refCount := by
  cases hstep with
  | create s event _ => exact absurd hheld nofun
  | handle s event hin _ => exact absurd (hpool.symm.trans hin) nofun
  | other s s' e held hother hstep =>
      cases hstep with
      | invokeFsm event _ => exact absurd rfl (hother event)
      | timerExpired timer _ =>
          have hpool' : (s.dropTimer timer).inTxnPool = false := hpool
          rw [TxnFsm.expire, cbkTxnTimeout, if_pos (by rw [hpool']; rfl)]
          rfl
      | msgSent transpInfo => rfl
      | updateSipTimers options values _ hpos => rfl
      | prackReceived newTxnKey _ =>
          simp only [SipStack.prackReceived]
          split
          · rfl
          · split
            · simp
            · rfl
      | otherTxns keys _ => rfl
      | removeTxn hterm =>
          have hpool' : ¬ s.inTxnPool = true := by simpa using hpool
          rw [SipStack.removeFromTxnPool, if_neg hpool']

theorem LifeInv.countedLife {l : TxnLife σ} (h : LifeInv idle l) : CountedLife fsm txnType l := by
  have hdeleted : l.stack.txn.refCount = 0 ↔ l.held = false ∧ l.stack.inTxnPool = false := by
    rw [h.counted]
    cases l.held <;> by_cases hpool : l.stack.inTxnPool = true <;> simp [hpool, poolReferences]
  refine ⟨h.counted, hdeleted, fun e l' hzero hstep => ?_⟩
  obtain ⟨hheld, hpool⟩ := hdeleted.mp hzero
  exact (deleted_step hheld hpool hstep).trans hzero

/-- The references are counted in every life without a timed out provisional
response. -/
theorem countedLife_of_reachable (d : RefDiscipline fsm idle notifiesRprTimeout)
    {l : TxnLife σ}
    (hl : ((lifeSystem fsm txnType idle).restrict (noRprTimeout notifiesRprTimeout)).Reachable l) :
    CountedLife fsm txnType l := by
  have hinv : LifeInv idle l := by
    refine System.Reachable.invariant (fun l h => ?_) ?_ hl
    · exact lifeInv_init l h
    · rintro s e s' h ⟨hallowed, hstep⟩
      exact lifeInv_step d h hallowed hstep
  exact hinv.countedLife

end RefDiscipline

namespace SipInviteClientTxn

theorem opens (immediate : ImmediateTimeout State) (s : Stack) (event : Event)
    (hvalues : s.txn.txnTimerValues.InRange) (hstate : s.txn.txnState = .idle)
    (hevent : fsm.isTimeout event = false) :
    Opened .idle s (fsm.invoke immediate event s).stack := by
  change Opened _ s (runAction immediate (table s.txn.txnState event) s).stack
  rw [hstate]
  cases event with
  | sendInvReq data =>
      unfold runAction table idleStateSendInviteRequest
      dsimp only
      cases s.txn.txnKey.copy with
      | none => exact .inl (.refl s)
      | some newTxnKey =>
          simp only
          split
          · exact .inl (.refl s)
          · have hstarted (timer timer' : TimerType) := (KeepsRefs.refl s.addToTxnPool).startTxnTimer
              hvalues immediate timer timer'
            split
            · exact .inr ⟨(hstarted _ _).refCount, (hstarted _ _).inTxnPool,
                (hstarted _ _).txnTimerValues, (by rintro ⟨⟩)⟩
            · exact .inr ⟨(hstarted _ _).refCount, (hstarted _ _).inTxnPool,
                (hstarted _ _).txnTimerValues, (by rintro ⟨⟩)⟩
  | _ => exact .inl (.refl s)

theorem handles (immediate : ImmediateTimeout State) (s : Stack) (event : Event)
    (hvalues : s.txn.txnTimerValues.InRange) (hidle : s.txn.txnState ≠ .idle)
    (hevent : fsm.isTimeout event = false) :
    KeepsRefs s (fsm.invoke immediate event s).stack ∧
      (fsm.invoke immediate event s).stack.txn.txnState ≠ .idle := by
  change KeepsRefs s (runAction immediate (table s.txn.txnState event) s).stack ∧
    (runAction immediate (table s.txn.txnState event) s).stack.txn.txnState ≠ .idle
  have hsame (keys : List SipTxnKey) : KeepsRefs s { s with txnKeyList := keys } := ⟨rfl, rfl, rfl⟩
  have hstopped : KeepsRefs s s.stopTxnTimer := (KeepsRefs.refl s).stopTxnTimer
  cases hstate : s.txn.txnState with
  | idle => exact absurd hstate hidle
  | calling =>
      cases event with
      | recv1xxResp data =>
          refine ⟨?_, (by rintro ⟨⟩)⟩
          unfold runAction table callingStateReceive1xxResponse
          dsimp only
          split
          · exact hstopped.trans ⟨rfl, rfl, rfl⟩
          · exact hstopped.trans ⟨rfl, rfl, rfl⟩
      | recv2xxResp data =>
          exact ⟨(hstopped.startTxnTimer hvalues immediate .timerM .timerM).trans ⟨rfl, rfl, rfl⟩,
            (by rintro ⟨⟩)⟩
      | recvFailureResp data =>
          exact ⟨(hstopped.startTxnTimer hvalues immediate .timerD .timerD).trans ⟨rfl, rfl, rfl⟩,
            (by rintro ⟨⟩)⟩
      | transpError => exact ⟨hstopped.trans ⟨rfl, rfl, rfl⟩, (by rintro ⟨⟩)⟩
      | sendInvReq data => exact ⟨.refl s, hidle⟩
      | _ => exact absurd hevent (by rintro ⟨⟩)
  | proceeding =>
      cases event with
      | recv1xxResp data =>
          unfold runAction table proceedingStateReceive1xxResponse
          dsimp only
          split
          · split
            · exact ⟨.refl s, hidle⟩
            · split
              · split
                · exact ⟨.refl s, hidle⟩
                · exact ⟨hsame _, hidle⟩
              · exact ⟨hsame _, hidle⟩
          · exact ⟨.refl s, hidle⟩
      | recv2xxResp data =>
          exact ⟨((hsame _).startTxnTimer hvalues immediate .timerM .timerM).trans ⟨rfl, rfl, rfl⟩,
            (by rintro ⟨⟩)⟩
      | recvFailureResp data =>
          exact ⟨((hsame _).startTxnTimer hvalues immediate .timerD .timerD).trans ⟨rfl, rfl, rfl⟩,
            (by rintro ⟨⟩)⟩
      | transpError => exact ⟨⟨rfl, rfl, rfl⟩, (by rintro ⟨⟩)⟩
      | sendInvReq data => exact ⟨.refl s, hidle⟩
      | _ => exact absurd hevent (by rintro ⟨⟩)
  | accepted =>
      cases event with
      | recv1xxResp data => exact ⟨.refl s, hidle⟩
      | recv2xxResp data => exact ⟨hsame _, hidle⟩
      | recvFailureResp data => exact ⟨hsame _, hidle⟩
      | transpError => exact ⟨hstopped.trans ⟨rfl, rfl, rfl⟩, (by rintro ⟨⟩)⟩
      | sendInvReq data => exact ⟨.refl s, hidle⟩
      | _ => exact absurd hevent (by rintro ⟨⟩)
  | completed =>
      cases event with
      | transpError => exact ⟨hstopped.trans ⟨rfl, rfl, rfl⟩, (by rintro ⟨⟩)⟩
      | recv1xxResp data => exact ⟨.refl s, hidle⟩
      | recv2xxResp data => exact ⟨.refl s, hidle⟩
      | recvFailureResp data => exact ⟨.refl s, hidle⟩
      | sendInvReq data => exact ⟨.refl s, hidle⟩
      | _ => exact absurd hevent (by rintro ⟨⟩)
  | terminated => cases event <;> exact ⟨.refl s, hidle⟩

theorem refDiscipline : RefDiscipline fsm .idle notifiesRprTimeout where
  idle_live := rfl
  opens := opens
  handles := handles
  notifies timer s h := by
    refine ⟨?_, ?_⟩
    · simp [fsm, h.2.1]
    · rcases h.1 with rfl | rfl <;> exact ⟨_, rfl⟩
  frame _ _ := Iff.rfl
  drop _ _ _ := Iff.rfl
  timeouts immediate timer s := timeoutSpec immediate timer s

end SipInviteClientTxn

namespace SipInviteServerTxn

theorem opens (immediate : ImmediateTimeout State) (s : Stack) (event : Event)
    (hstate : s.txn.txnState = .idle) (hevent : fsm.isTimeout event = false) :
    Opened .idle s (fsm.invoke immediate event s).stack := by
  change Opened _ s (runAction immediate (table s.txn.txnState event) s).stack
  rw [hstate]
  cases event with
  | recvInvReq data =>
      unfold runAction table idleStateReceiveInviteRequest
      dsimp only
      cases s.txn.txnKey.copy with
      | none => exact .inl (.refl s)
      | some newTxnKey =>
          simp only
          split
          · exact .inl (.refl s)
          · exact .inr ⟨rfl, rfl, rfl, (by rintro ⟨⟩)⟩
  | _ => exact .inl (.refl s)

theorem stopRetransmission_keepsRefs (s : Stack) : KeepsRefs s (stopRetransmission s) :=
  (KeepsRefs.refl s).stopTxnTimer.trans ⟨rfl, rfl, rfl⟩

theorem stopRetransmission_txnState (s : Stack) :
    (stopRetransmission s).txn.txnState = s.txn.txnState := by
  simp [stopRetransmission, SipTxn.initRetransmissionInfo]

theorem handles_proceeding (immediate : ImmediateTimeout State) (s : Stack) (event : Event)
    (hvalues : s.txn.txnTimerValues.InRange) (hstate : s.txn.txnState = .proceeding)
    (hevent : fsm.isTimeout event = false) :
    KeepsRefs s (runAction immediate (table .proceeding event) s).stack ∧
      (runAction immediate (table .proceeding event) s).stack.txn.txnState ≠ .idle := by
  have hstopped := stopRetransmission_keepsRefs s
  have hlive : s.txn.txnState ≠ .idle := by simp [hstate]
  cases event with
  | sendNon100ProvResp data =>
      have hT1 : 0 < s.txn.txnTimerValues.getTimerValue .timerT1 := (hvalues .timerT1).1
      have hT1' : 0 < ((stopRetransmission s).addKey
          { (stopRetransmission s).txn.txnKey with
            rSeqNum := data.sipMsgIn.rSeq.getD 0 }).txn.getTimerValue .timerT1 := by
        simpa [SipTxn.getTimerValue, hstopped.txnTimerValues] using hT1
      unfold runAction table proceedingStateSendNon100ProvisionalResponse
      dsimp only
      split
      · rw [SipStack.startTxnTimer_of_pos immediate .timerG hT1']
        refine ⟨hstopped.trans ⟨rfl, rfl, rfl⟩, ?_⟩
        change (stopRetransmission s).txn.txnState ≠ .idle
        rw [stopRetransmission_txnState]
        exact hlive
      · refine ⟨hstopped, ?_⟩
        rw [stopRetransmission_txnState]
        exact hlive
  | sendFailureResp data =>
      have hstarted (timer timer' : TimerType) :=
        hstopped.startTxnTimer hvalues immediate timer timer'
      refine ⟨?_, (by rintro ⟨⟩)⟩
      unfold runAction table proceedingStateSendFailureResponse
      dsimp only
      split
      · exact (hstarted .timerG .timerT1).trans ⟨rfl, rfl, rfl⟩
      · exact (hstarted .timerH .timerH).trans ⟨rfl, rfl, rfl⟩
  | send2xxResp data =>
      exact ⟨(hstopped.startTxnTimer hvalues immediate .timerL .timerL).trans ⟨rfl, rfl, rfl⟩,
        (by rintro ⟨⟩)⟩
  | recvInvReq data => exact ⟨.refl s, hlive⟩
  | transpError => exact ⟨.refl s, hlive⟩
  | recvAckReq data => exact ⟨.refl s, hlive⟩
  | _ => exact absurd hevent (by rintro ⟨⟩)

theorem handles_completed (immediate : ImmediateTimeout State) (s : Stack) (event : Event)
    (hvalues : s.txn.txnTimerValues.InRange) (hstate : s.txn.txnState = .completed)
    (hevent : fsm.isTimeout event = false) :
    KeepsRefs s (runAction immediate (table .completed event) s).stack ∧
      (runAction immediate (table .completed event) s).stack.txn.txnState ≠ .idle := by
  have hstopped : KeepsRefs s s.stopTxnTimer := (KeepsRefs.refl s).stopTxnTimer
  have hlive : s.txn.txnState ≠ .idle := by simp [hstate]
  cases event with
  | recvAckReq data =>
      unfold runAction table completedStateReceiveAckRequest
      dsimp only
      split
      · exact ⟨(hstopped.startTxnTimer hvalues immediate .timerI .timerI).trans ⟨rfl, rfl, rfl⟩,
          (by rintro ⟨⟩)⟩
      · exact ⟨hstopped.trans ⟨rfl, rfl, rfl⟩, (by rintro ⟨⟩)⟩
  | recvInvReq data => exact ⟨.refl s, hlive⟩
  | transpError => exact ⟨.refl s, hlive⟩
  | sendNon100ProvResp data => exact ⟨.refl s, hlive⟩
  | sendFailureResp data => exact ⟨.refl s, hlive⟩
  | send2xxResp data => exact ⟨.refl s, hlive⟩
  | _ => exact absurd hevent (by rintro ⟨⟩)

theorem handles (immediate : ImmediateTimeout State) (s : Stack) (event : Event)
    (hvalues : s.txn.txnTimerValues.InRange) (hidle : s.txn.txnState ≠ .idle)
    (hevent : fsm.isTimeout event = false) :
    KeepsRefs s (fsm.invoke immediate event s).stack ∧
      (fsm.invoke immediate event s).stack.txn.txnState ≠ .idle := by
  change KeepsRefs s (runAction immediate (table s.txn.txnState event) s).stack ∧
    (runAction immediate (table s.txn.txnState event) s).stack.txn.txnState ≠ .idle
  cases hstate : s.txn.txnState with
  | idle => exact absurd hstate hidle
  | proceeding => exact handles_proceeding immediate s event hvalues hstate hevent
  | completed => exact handles_completed immediate s event hvalues hstate hevent
  | accepted =>
      cases event with
      | recvAckReq data =>
          unfold runAction table acceptedStateReceiveAckRequest
          dsimp only
          split
          · exact ⟨.refl s, hidle⟩
          · exact ⟨⟨rfl, rfl, rfl⟩, hidle⟩
      | timerGHTimeOut timer => exact absurd hevent (by rintro ⟨⟩)
      | timerITimeOut => exact absurd hevent (by rintro ⟨⟩)
      | timerLTimeOut => exact absurd hevent (by rintro ⟨⟩)
      | _ => exact ⟨.refl s, hidle⟩
  | confirmed =>
      cases event with
      | timerGHTimeOut timer => exact absurd hevent (by rintro ⟨⟩)
      | timerITimeOut => exact absurd hevent (by rintro ⟨⟩)
      | timerLTimeOut => exact absurd hevent (by rintro ⟨⟩)
      | _ => exact ⟨.refl s, hidle⟩
  | terminated => cases event <;> exact ⟨.refl s, hidle⟩

theorem refDiscipline : RefDiscipline fsm .idle notifiesRprTimeout where
  idle_live := rfl
  opens immediate s event _ := opens immediate s event
  handles := handles
  notifies timer s h := by
    refine ⟨?_, ?_⟩
    · rcases h.2 with h | h <;> simp [fsm, h.1]
    · rcases h.1 with rfl | rfl <;> exact ⟨_, rfl⟩
  frame _ _ := Iff.rfl
  drop _ _ _ := Iff.rfl
  timeouts immediate timer s := timeoutSpec immediate timer s

end SipInviteServerTxn

namespace SipNonInviteClientTxn

theorem opens (immediate : ImmediateTimeout State) (s : Stack) (event : Event)
    (hvalues : s.txn.txnTimerValues.InRange) (hstate : s.txn.txnState = .idle)
    (hevent : fsm.isTimeout event = false) :
    Opened .idle s (fsm.invoke immediate event s).stack := by
  change Opened _ s (runAction immediate (table s.txn.txnState event) s).stack
  rw [hstate]
  cases event with
  | sendNonInvReq data =>
      unfold runAction table idleStateSendNonInviteRequest
      dsimp only
      cases s.txn.txnKey.copy with
      | none => exact .inl (.refl s)
      | some newTxnKey =>
          have hstarted (timer timer' : TimerType) := (KeepsRefs.refl s.addToTxnPool).startTxnTimer
            hvalues immediate timer timer'
          have hopened (timer timer' : TimerType) (keys : List SipTxnKey) :
              Opened .idle s { (((s.addToTxnPool.startTxnTimer immediate timer
                (s.addToTxnPool.txn.getTimerValue timer')).mapTxn
                (·.setMaxDuration (s.addToTxnPool.txn.getTimerValue .timerF))).mapTxn
                (·.setTxnState .trying)) with txnKeyList := keys } :=
            .inr ⟨(hstarted timer timer').refCount, (hstarted timer timer').inTxnPool,
              (hstarted timer timer').txnTimerValues, (by rintro ⟨⟩)⟩
          simp only
          split
          · exact .inl (.refl s)
          · split <;> split <;> exact hopened _ _ _
  | _ => exact .inl (.refl s)

theorem handleFinalResponse_keepsRefs (immediate : ImmediateTimeout State) (s : Stack)
    (hvalues : s.txn.txnTimerValues.InRange) :
    KeepsRefs s (handleFinalResponse immediate s).stack ∧
      (handleFinalResponse immediate s).stack.txn.txnState ≠ .idle := by
  have hstopped : KeepsRefs s s.stopTxnTimer := (KeepsRefs.refl s).stopTxnTimer
  unfold handleFinalResponse
  dsimp only
  split
  · exact ⟨(hstopped.startTxnTimer hvalues immediate .timerK .timerK).trans ⟨rfl, rfl, rfl⟩,
      nofun⟩
  · exact ⟨hstopped.trans ⟨rfl, rfl, rfl⟩, nofun⟩

theorem handles (immediate : ImmediateTimeout State) (s : Stack) (event : Event)
    (hvalues : s.txn.txnTimerValues.InRange) (hidle : s.txn.txnState ≠ .idle)
    (hevent : fsm.isTimeout event = false) :
    KeepsRefs s (fsm.invoke immediate event s).stack ∧
      (fsm.invoke immediate event s).stack.txn.txnState ≠ .idle := by
  change KeepsRefs s (runAction immediate (table s.txn.txnState event) s).stack ∧
    (runAction immediate (table s.txn.txnState event) s).stack.txn.txnState ≠ .idle
  have hstopped : KeepsRefs s s.stopTxnTimer := (KeepsRefs.refl s).stopTxnTimer
  cases event with
  | sendNonInvReq data =>
      cases hstate : s.txn.txnState with
      | idle => exact absurd hstate hidle
      | _ => exact ⟨.refl s, hidle⟩
  | recv1xxResp data =>
      cases hstate : s.txn.txnState with
      | trying => exact ⟨⟨rfl, rfl, rfl⟩, (by rintro ⟨⟩)⟩
      | _ => exact ⟨.refl s, hidle⟩
  | recvFinalResp data =>
      cases hstate : s.txn.txnState with
      | trying => exact handleFinalResponse_keepsRefs immediate s hvalues
      | proceeding => exact handleFinalResponse_keepsRefs immediate s hvalues
      | _ => exact ⟨.refl s, hidle⟩
  | transpError =>
      cases hstate : s.txn.txnState with
      | trying => exact ⟨hstopped.trans ⟨rfl, rfl, rfl⟩, (by rintro ⟨⟩)⟩
      | proceeding => exact ⟨hstopped.trans ⟨rfl, rfl, rfl⟩, (by rintro ⟨⟩)⟩
      | completed => exact ⟨hstopped.trans ⟨rfl, rfl, rfl⟩, (by rintro ⟨⟩)⟩
      | _ => exact ⟨.refl s, hidle⟩
  | timerEFTimeOut => exact absurd hevent (by rintro ⟨⟩)
  | timerKTimeOut => exact absurd hevent (by rintro ⟨⟩)

theorem refDiscipline : RefDiscipline fsm .idle notifiesRprTimeout where
  idle_live := rfl
  opens := opens
  handles := handles
  notifies timer s h := by
    refine ⟨?_, ?_⟩
    · rcases h.2.1 with h | h <;> simp [fsm, h]
    · rcases h.1 with rfl | rfl <;> exact ⟨_, rfl⟩
  frame _ _ := Iff.rfl
  drop _ _ _ := Iff.rfl
  timeouts immediate timer s := timeoutSpec immediate timer s

end SipNonInviteClientTxn

namespace SipNonInviteServerTxn

theorem opens (immediate : ImmediateTimeout State) (s : Stack) (event : Event)
    (hstate : s.txn.txnState = .idle) (hevent : fsm.isTimeout event = false) :
    Opened .idle s (fsm.invoke immediate event s).stack := by
  change Opened _ s (runAction immediate (table s.txn.txnState event) s).stack
  rw [hstate]
  cases event with
  | recvNonInvReq data =>
      have hopened (keys : List SipTxnKey) :
          Opened .idle s { s.addToTxnPool.mapTxn (·.setTxnState .trying) with
            txnKeyList := keys } := .inr ⟨rfl, rfl, rfl, (by rintro ⟨⟩)⟩
      unfold runAction table idleStateReceiveNonInviteRequest
      dsimp only
      cases s.txn.txnKey.copy with
      | none => exact .inl (.refl s)
      | some newTxnKey =>
          simp only
          split
          · exact .inl (.refl s)
          · cases data.sipMsgIn.prackRAck with
            | none => exact hopened _
            | some nRseqNum =>
                simp only
                split
                · split <;> exact hopened _
                · exact hopened _
  | _ => exact .inl (.refl s)

theorem sendFinalResponse_keepsRefs (immediate : ImmediateTimeout State) (data : SipTxnFsmData)
    (s : Stack) (hvalues : s.txn.txnTimerValues.InRange) :
    KeepsRefs s (sendFinalResponse immediate data s).stack ∧
      (sendFinalResponse immediate data s).stack.txn.txnState ≠ .idle := by
  unfold sendFinalResponse
  split
  · exact ⟨((KeepsRefs.refl s).startTxnTimer hvalues immediate .timerJ .timerJ).trans
      ⟨rfl, rfl, rfl⟩, nofun⟩
  · exact ⟨⟨rfl, rfl, rfl⟩, nofun⟩

theorem handles (immediate : ImmediateTimeout State) (s : Stack) (event : Event)
    (hvalues : s.txn.txnTimerValues.InRange) (hidle : s.txn.txnState ≠ .idle)
    (hevent : fsm.isTimeout event = false) :
    KeepsRefs s (fsm.invoke immediate event s).stack ∧
      (fsm.invoke immediate event s).stack.txn.txnState ≠ .idle := by
  change KeepsRefs s (runAction immediate (table s.txn.txnState event) s).stack ∧
    (runAction immediate (table s.txn.txnState event) s).stack.txn.txnState ≠ .idle
  have hstopped : KeepsRefs s s.stopTxnTimer := (KeepsRefs.refl s).stopTxnTimer
  cases event with
  | recvNonInvReq data =>
      cases hstate : s.txn.txnState with
      | idle => exact absurd hstate hidle
      | _ => exact ⟨.refl s, hidle⟩
  | send1xxResp data =>
      cases hstate : s.txn.txnState with
      | trying => exact ⟨⟨rfl, rfl, rfl⟩, (by rintro ⟨⟩)⟩
      | _ => exact ⟨.refl s, hidle⟩
  | sendFinalResp data =>
      cases hstate : s.txn.txnState with
      | trying => exact sendFinalResponse_keepsRefs immediate data s hvalues
      | proceeding => exact sendFinalResponse_keepsRefs immediate data s hvalues
      | _ => exact ⟨.refl s, hidle⟩
  | transpError =>
      cases hstate : s.txn.txnState with
      | trying => exact ⟨⟨rfl, rfl, rfl⟩, (by rintro ⟨⟩)⟩
      | proceeding => exact ⟨⟨rfl, rfl, rfl⟩, (by rintro ⟨⟩)⟩
      | completed => exact ⟨hstopped.trans ⟨rfl, rfl, rfl⟩, (by rintro ⟨⟩)⟩
      | _ => exact ⟨.refl s, hidle⟩
  | timerJTimeOut => exact absurd hevent (by rintro ⟨⟩)

theorem refDiscipline : RefDiscipline fsm .idle fun _ _ => False where
  idle_live := rfl
  opens immediate s event _ := opens immediate s event
  handles := handles
  notifies _ _ h := h.elim
  frame _ _ := Iff.rfl
  drop _ _ _ := Iff.rfl
  timeouts immediate timer s event hevent _ := timeoutSpec immediate timer s event hevent

end SipNonInviteServerTxn

theorem reachable_expireNext {σ ε : Type} {fsm : TxnFsm σ ε} {txnType : TxnType}
    {idle : σ} {s : SipStack σ} {held : Bool}
    (h : (lifeSystem fsm txnType idle).Reachable ⟨s, held⟩) :
    (lifeSystem fsm txnType idle).Reachable ⟨fsm.expireNext s, held⟩ := by
  unfold TxnFsm.expireNext
  split
  · exact h
  · rename_i timer timers htimers
    have hmem : timer ∈ s.runningTimers := by
      rw [htimers]
      exact List.mem_cons_self
    exact .step (.timerExpired timer) h
      (.other _ _ _ _ (fun _ => nofun) (.timerExpired s timer hmem))

theorem reachable_iterate_expireNext {σ ε : Type} {fsm : TxnFsm σ ε} {txnType : TxnType}
    {idle : σ} {s : SipStack σ} {held : Bool}
    (h : (lifeSystem fsm txnType idle).Reachable ⟨s, held⟩) (n : Nat) :
    (lifeSystem fsm txnType idle).Reachable ⟨fsm.expireNext^[n] s, held⟩ := by
  induction n with
  | zero => exact h
  | succ n ih =>
      rw [Function.iterate_succ_apply']
      exact reachable_expireNext ih

/-- The references of one type of transaction: a callback is balanced if and only
if it does not report a timed out provisional response of a transaction that lives
on, and without such callbacks every life counts its references. -/
structure RefsBalanced {σ ε : Type} (fsm : TxnFsm σ ε) (txnType : TxnType) (idle : σ)
    (notifiesRprTimeout : TimerType → SipStack σ → Prop) : Prop where
  callback : ∀ immediate timer timerId (s : SipStack σ),
    Balanced s (cbkTxnTimeout fsm immediate timer timerId s).1 ↔
      ¬ (s.inTxnPool = true ∧ timerId = s.txn.timerId ∧ notifiesRprTimeout timer s)
  lives : ∀ l : TxnLife σ,
    ((lifeSystem fsm txnType idle).restrict (noRprTimeout notifiesRprTimeout)).Reachable l →
      CountedLife fsm txnType l

theorem RefDiscipline.balanced {σ ε : Type} {fsm : TxnFsm σ ε} {idle : σ}
    {notifiesRprTimeout : TimerType → SipStack σ → Prop}
    (d : RefDiscipline fsm idle notifiesRprTimeout) (txnType : TxnType) :
    RefsBalanced fsm txnType idle notifiesRprTimeout :=
  ⟨d.balanced_iff, fun _ hl => d.countedLife_of_reachable hl⟩

/-- The references of a type of transaction, with its state machine.  No callback of a
non-INVITE server transaction is ever unbalanced. -/
def TxnType.RefsBalanced : TxnType → Prop
  | .inviteClient =>
    Txn.RefsBalanced SipInviteClientTxn.fsm .inviteClient .idle
      SipInviteClientTxn.notifiesRprTimeout
  | .inviteServer =>
    Txn.RefsBalanced SipInviteServerTxn.fsm .inviteServer .idle
      SipInviteServerTxn.notifiesRprTimeout
  | .nonInviteClient =>
    Txn.RefsBalanced SipNonInviteClientTxn.fsm .nonInviteClient .idle
      SipNonInviteClientTxn.notifiesRprTimeout
  | .nonInviteServer =>
    Txn.RefsBalanced SipNonInviteServerTxn.fsm .nonInviteServer .idle fun _ _ => False

/-- The references of every type of transaction. -/
theorem refsBalanced (txnType : TxnType) : txnType.RefsBalanced := by
  cases txnType with
  | inviteClient => exact SipInviteClientTxn.refDiscipline.balanced _
  | inviteServer => exact SipInviteServerTxn.refDiscipline.balanced _
  | nonInviteClient => exact SipNonInviteClientTxn.refDiscipline.balanced _
  | nonInviteServer => exact SipNonInviteServerTxn.refDiscipline.balanced _

namespace SipInviteServerTxn

/-- An INVITE request has been received and 183 sent reliably, over UDP. -/
def exampleRpr : Stack :=
  let recvInvReq := exampleData methodInvite .inviteServer
  let send183 := { recvInvReq with
    sipMsgIn := { recvInvReq.sipMsgIn with statusCode := 183, rSeq := some 1 } }
  let s := (fsm.invokeFsm (.recvInvReq recvInvReq)
    (exampleStack .idle methodInvite .inviteServer)).stack.sipDelete
  let s := (fsm.invokeFsm (.sendNon100ProvResp send183) s.increment).stack.sipDelete
  s.mapTxn fun txn => { txn with transpInfo := some .udp }

/-- The response is sent again six times, and the next expiry of timer G is its
timeout. -/
def exampleRprExpiring : Stack := fsm.expireNext^[6] exampleRpr

theorem exampleRpr_reachable :
    (lifeSystem fsm .inviteServer .idle).Reachable ⟨exampleRpr, false⟩ := by
  have hnew : (lifeSystem fsm .inviteServer .idle).Reachable
      ⟨exampleStack .idle methodInvite .inviteServer, true⟩ :=
    .init ⟨rfl, _, _, _, _, exampleValues_positive, rfl⟩
  have hcreated : (lifeSystem fsm .inviteServer .idle).Reachable
      ⟨(fsm.invokeFsm (.recvInvReq (exampleData methodInvite .inviteServer))
        (exampleStack .idle methodInvite .inviteServer)).stack.sipDelete, false⟩ :=
    .step _ hnew (.create _ _ rfl)
  exact .step (.msgSent (some .udp)) (.step _ hcreated (.handle _ _ rfl rfl))
    (.other _ _ _ _ (fun _ => nofun) (.msgSent _ _))

/-- The server after the INVITE request: its creator is done, and the pool holds the
transaction. -/
theorem refsBalanced_created :
    let s := (fsm.invokeFsm (.recvInvReq (exampleData methodInvite .inviteServer))
      (exampleStack .idle methodInvite .inviteServer)).stack.sipDelete
    s.txn.refCount = 2 ∧ CountedLife fsm .inviteServer ⟨s, false⟩ := by
  have hnew : ((lifeSystem fsm .inviteServer .idle).restrict
      (noRprTimeout notifiesRprTimeout)).Reachable
      ⟨exampleStack .idle methodInvite .inviteServer, true⟩ :=
    .init ⟨rfl, _, _, _, _, exampleValues_positive, rfl⟩
  have hbalanced : RefsBalanced fsm .inviteServer .idle notifiesRprTimeout :=
    refsBalanced .inviteServer
  exact ⟨rfl, hbalanced.lives _ (.step _ hnew ⟨nofun, .create _ _ rfl⟩)⟩

/-- The timeout of a reliable provisional response keeps the reference the callback
has taken. -/
theorem not_refsBalanced :
    (lifeSystem fsm .inviteServer .idle).Reachable ⟨exampleRprExpiring, false⟩ ∧
      ⟨6, .timerG⟩ ∈ exampleRprExpiring.runningTimers ∧
      ¬ Balanced exampleRprExpiring (fsm.expire ⟨6, .timerG⟩ exampleRprExpiring).1 :=
  ⟨reachable_iterate_expireNext exampleRpr_reachable 6, by decide, by unfold Balanced; decide⟩

end SipInviteServerTxn

end ImsStack.Txn
