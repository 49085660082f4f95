import ImsStack.Txn.InviteTimers
import ImsStack.Txn.NonInviteTimers
import ImsStack.Txn.Retransmission

/-!
The references to a transaction.  `CbkTxnTimeout` takes one at its start; the
question is which of its exits give it back.
-/

namespace ImsStack.Txn

/-- The callback leaves the references as they were, and gives those of the pool
back if and only if it takes the transaction out of the pool. -/
def Balanced {σ : Type} (s s' : SipStack σ) : Prop :=
  s'.txn.refCount =
    s.txn.refCount - if s.inTxnPool = true ∧ s'.inTxnPool = false then poolReferences else 0

/-- Neither the references nor the pool have changed, nor the timer values. -/
structure KeepsRefs {σ : Type} (s s' : SipStack σ) : Prop where
  refCount : s'.txn.refCount = s.txn.refCount
  inTxnPool : s'.inTxnPool = s.inTxnPool
  txnTimerValues : s'.txn.txnTimerValues = s.txn.txnTimerValues

namespace KeepsRefs

variable {σ : Type} {s s' s'' : SipStack σ}

theorem refl (s : SipStack σ) : KeepsRefs s s := ⟨rfl, rfl, rfl⟩

theorem trans (h : KeepsRefs s s') (h' : KeepsRefs s' s'') : KeepsRefs s s'' where
  refCount := h'.refCount.trans h.refCount
  inTxnPool := h'.inTxnPool.trans h.inTxnPool
  txnTimerValues := h'.txnTimerValues.trans h.txnTimerValues

theorem stopTxnTimer (h : KeepsRefs s s') : KeepsRefs s s'.stopTxnTimer :=
  h.trans ⟨by simp, by simp, by simp⟩

/-- A timer that is started for one of the timer values goes to the platform, and
no callback runs at once. -/
theorem startTxnTimer (h : KeepsRefs s s') (hvalues : s.txn.txnTimerValues.InRange)
    (immediate : ImmediateTimeout σ) (timer timer' : TimerType) :
    KeepsRefs s (s'.startTxnTimer immediate timer (s'.txn.getTimerValue timer')) := by
  have hpos : 0 < s'.txn.getTimerValue timer' := by
    rw [SipTxn.getTimerValue, h.txnTimerValues]
    exact (hvalues timer').1
  rw [SipStack.startTxnTimer_of_pos immediate timer hpos]
  exact h.trans ⟨rfl, rfl, rfl⟩

end KeepsRefs

theorem KeepsTxn.keepsRefs {σ : Type} {s s' : SipStack σ} (h : KeepsTxn s s') : KeepsRefs s s' :=
  ⟨h.refCount, h.inTxnPool, h.txnTimerValues⟩

/-- What the callback needs to know of the action of an expired timer: the
references, and whether it leaves the transaction alive with the flag of a timed
out provisional response up. -/
structure TimeoutSpec {σ ε : Type} (fsm : TxnFsm σ ε) (s : SipStack σ) (notifies : Prop)
    (result : FsmResult σ) : Prop where
  keepsRefs : KeepsRefs s result.stack
  txnState : result.stack.txn.txnState = s.txn.txnState ∨
    fsm.isTerminated result.stack.txn.txnState = true
  notifies : (result.ok = true ∧ fsm.isTerminated result.stack.txn.txnState = false ∧
    result.stack.txn.rprTxnTerminated = true) ↔ notifies

section TimeoutSpec

variable {σ ε : Type} {fsm : TxnFsm σ ε} {s : SipStack σ} {notifies : Prop}

theorem timeoutSpec_of_not_ok (hnot : ¬ notifies) :
    TimeoutSpec fsm s notifies { ok := false, stack := s } where
  keepsRefs := .refl s
  txnState := .inl rfl
  notifies := ⟨fun h => absurd h.1 Bool.false_ne_true, fun h => absurd h hnot⟩

theorem timeoutSpec_of_terminated {s' : SipStack σ} (hkeeps : KeepsRefs s s')
    (hterm : fsm.isTerminated s'.txn.txnState = true) (hnot : ¬ notifies) :
    TimeoutSpec fsm s notifies { ok := true, stack := s' } where
  keepsRefs := hkeeps
  txnState := .inr hterm
  notifies := by
    refine ⟨fun h => ?_, fun h => absurd h hnot⟩
    exact absurd (hterm.symm.trans h.2.1) nofun

/-- The timer of a last state terminates the transaction there and is invalid
elsewhere. -/
theorem timeoutSpec_of_lastState {result : FsmResult σ} (hlast : Prop) (s' : SipStack σ)
    (hkeeps : KeepsRefs s s') (hterm : fsm.isTerminated s'.txn.txnState = true)
    (hresult : hlast → result = { ok := true, stack := s' })
    (hinvalid : ¬ hlast → result = { ok := false, stack := s }) (hnot : ¬ notifies) :
    TimeoutSpec fsm s notifies result := by
  by_cases h : hlast
  · rw [hresult h]
    exact timeoutSpec_of_terminated hkeeps hterm hnot
  · rw [hinvalid h]
    exact timeoutSpec_of_not_ok hnot

theorem timeoutSpec_retransmitOr {immediate : ImmediateTimeout σ} {timer : TimerType}
    {mayRetransmit : Prop} [Decidable mayRetransmit] {duration : Nat} {state : σ}
    (hlive : fsm.isTerminated s.txn.txnState = false) (hterm : fsm.isTerminated state = true)
    (hnotifies : notifies ↔ (mayRetransmit ∧ s.firstDurationExpired < s.txn.maxDuration) ∧
      s.txn.rprTxnTerminated = true) :
    TimeoutSpec fsm s notifies
      (retransmitOr immediate timer mayRetransmit duration (·.setTxnState state) s) := by
  by_cases h : mayRetransmit ∧ s.firstDurationExpired < s.txn.maxDuration
  · have hkeeps : KeepsTxn s
        (retransmitOr immediate timer mayRetransmit duration (·.setTxnState state) s).stack :=
      retransmitOr_keepsTxn h
    refine ⟨hkeeps.keepsRefs, .inl hkeeps.txnState, ?_⟩
    rw [hkeeps.txnState, hkeeps.rprTxnTerminated, hnotifies]
    exact ⟨fun h' => ⟨h, h'.2.2⟩, fun h' => ⟨retransmitOr_ok, hlive, h'.2⟩⟩
  · rw [retransmitOr_of_not h]
    have hkeeps := KeepsTxn.countFirstExpiry s
    exact timeoutSpec_of_terminated (hkeeps.keepsRefs.trans ⟨rfl, rfl, rfl⟩) hterm
      fun h' => h (hnotifies.mp h').1

end TimeoutSpec

section Callback

variable {σ ε : Type} {fsm : TxnFsm σ ε} {immediate : ImmediateTimeout σ} {timer : TimerType}
  {timerId : Option Nat} {s : SipStack σ}

/-- The exits before the action: the reference is given back, and the pool's go
only with the transaction. -/
theorem cbkTxnTimeout_balanced_of_no_action
    (h : ¬ (s.inTxnPool = true ∧ timerId = s.txn.timerId ∧
      fsm.isTerminated s.txn.txnState = false ∧ ∃ event, fsm.timeoutEvent timer = some event)) :
    Balanced s (cbkTxnTimeout fsm immediate timer timerId s).1 := by
  unfold cbkTxnTimeout
  by_cases hpool : s.inTxnPool = true
  · by_cases hid : timerId = s.txn.timerId
    · by_cases hlive : fsm.isTerminated s.txn.txnState = false
      · have hevent : fsm.timeoutEvent timer = none := by
          refine Option.eq_none_iff_forall_ne_some.mpr fun event hevent => h ?_
          exact ⟨hpool, hid, hlive, event, hevent⟩
        simp [Balanced, hpool, hid, hlive, hevent, SipStack.increment, SipStack.mapTxn,
          SipStack.sipDelete]
      · simp [Balanced, hpool, hid, hlive, SipStack.increment, SipStack.mapTxn,
          SipStack.sipDelete, SipStack.removeFromTxnPool]
        omega
    · simp [Balanced, hpool, hid, SipStack.increment, SipStack.mapTxn, SipStack.sipDelete]
  · simp [Balanced, hpool]

theorem balanced_of_result {result : FsmResult σ}
    (hkeeps : KeepsRefs s.increment result.stack) (hpool : s.inTxnPool = true) :
    Balanced s (if !result.ok then (result.stack.sipDelete, TimeoutOutcome.invokeFsmFailed)
      else if fsm.isTerminated result.stack.txn.txnState then
        (result.stack.removeFromTxnPool.sipDelete, .notified)
      else if result.stack.txn.rprTxnTerminated then (result.stack, .notified)
      else (result.stack.sipDelete, .retransmitted)).1 ↔
    ¬ (result.ok = true ∧ fsm.isTerminated result.stack.txn.txnState = false ∧
      result.stack.txn.rprTxnTerminated = true) := by
  have hcount : result.stack.txn.refCount = s.txn.refCount + 1 := hkeeps.refCount
  have hpool' : result.stack.inTxnPool = true := hkeeps.inTxnPool.trans hpool
  cases hok : result.ok with
  | false => simp [Balanced, SipStack.sipDelete, hcount, hpool']
  | true =>
      cases hterm : fsm.isTerminated result.stack.txn.txnState with
      | true =>
          simp [Balanced, SipStack.sipDelete, SipStack.removeFromTxnPool, hcount, hpool, hpool']
          omega
      | false =>
          cases hrpr : result.stack.txn.rprTxnTerminated with
          | true => simp [Balanced, hcount, hpool']
          | false => simp [Balanced, SipStack.sipDelete, hcount, hpool']

/-- `CbkTxnTimeout` is balanced except where it reports a timed out provisional
response of a transaction that lives on. -/
theorem cbkTxnTimeout_balanced_iff {notifiesRprTimeout : TimerType → SipStack σ → Prop}
    (hframe : notifiesRprTimeout timer (s.increment.mapTxn fun txn => { txn with timerId := none })
      ↔ notifiesRprTimeout timer s)
    (hnotifies : notifiesRprTimeout timer s → fsm.isTerminated s.txn.txnState = false ∧
      ∃ event, fsm.timeoutEvent timer = some event)
    (hspec : ∀ s' event, fsm.timeoutEvent timer = some event →
      fsm.isTerminated s'.txn.txnState = false →
      TimeoutSpec fsm s' (notifiesRprTimeout timer s') (fsm.invoke immediate event s')) :
    Balanced s (cbkTxnTimeout fsm immediate timer timerId s).1 ↔
      ¬ (s.inTxnPool = true ∧ timerId = s.txn.timerId ∧ notifiesRprTimeout timer s) := by
  by_cases h : s.inTxnPool = true ∧ timerId = s.txn.timerId ∧
      fsm.isTerminated s.txn.txnState = false ∧ ∃ event, fsm.timeoutEvent timer = some event
  · obtain ⟨hpool, hid, hlive, event, hevent⟩ := h
    have hresult := hspec (s.increment.mapTxn fun txn => { txn with timerId := none }) event
      hevent hlive
    rw [cbkTxnTimeout_of_slot immediate s hpool hid.symm hlive hevent]
    refine (balanced_of_result ⟨hresult.keepsRefs.refCount, hresult.keepsRefs.inTxnPool,
      hresult.keepsRefs.txnTimerValues⟩
      hpool).trans (not_congr ?_)
    rw [hresult.notifies, hframe]
    exact ⟨fun h => ⟨hpool, hid, h⟩, fun h => h.2.2⟩
  · refine ⟨fun _ h' => h ?_, fun _ => cbkTxnTimeout_balanced_of_no_action h⟩
    exact ⟨h'.1, h'.2.1, hnotifies h'.2.2⟩

end Callback

namespace SipInviteClientTxn

/-- Timer A or B leaves the transaction alive, with the flag of a timed out
provisional response up. -/
def notifiesRprTimeout (timer : TimerType) (s : Stack) : Prop :=
  (timer = .timerA ∨ timer = .timerB) ∧ s.txn.txnState = .calling ∧
    s.txn.getMsgSentProto = .udp ∧ s.firstDurationExpired < s.txn.maxDuration ∧
    s.txn.rprTxnTerminated = true

theorem timeoutSpec (immediate : ImmediateTimeout State) (timer : TimerType) (s : Stack)
    (event : Event) (hevent : fsm.timeoutEvent timer = some event)
    (hlive : fsm.isTerminated s.txn.txnState = false) :
    TimeoutSpec fsm s (notifiesRprTimeout timer s) (fsm.invoke immediate event s) := by
  change TimeoutSpec fsm s _ (runAction immediate (table s.txn.txnState event) s)
  cases event with
  | timerABTimeOut =>
      have htimer : timer = .timerA ∨ timer = .timerB := by
        cases timer <;> simp_all [fsm]
      by_cases hstate : s.txn.txnState = .calling
      · rw [hstate]
        change TimeoutSpec fsm s _ (callingStateTimerABTimeout immediate s)
        rw [callingStateTimerABTimeout_eq]
        refine timeoutSpec_retransmitOr hlive rfl ?_
        simp [notifiesRprTimeout, htimer, hstate, and_assoc]
      · have hentry : table s.txn.txnState .timerABTimeOut = .handleInvalidStateEvent := by
          cases h : s.txn.txnState <;> first | rfl | exact absurd h hstate
        rw [hentry]
        exact timeoutSpec_of_not_ok fun h => hstate h.2.1
  | timerDTimeOut =>
      have htimer : timer = .timerD := by
        cases timer <;> simp_all [fsm]
      refine timeoutSpec_of_lastState (s.txn.txnState = .completed)
        (completedStateTimerDTimeout s).stack ⟨rfl, rfl, rfl⟩ rfl (fun h => ?_)
        (fun h => ?_) (by simp [notifiesRprTimeout, htimer])
      · rw [h]
        rfl
      · cases hstate : s.txn.txnState <;> first | rfl | exact absurd hstate h
  | timerMTimeOut =>
      have htimer : timer = .timerM := by
        cases timer <;> simp_all [fsm]
      refine timeoutSpec_of_lastState (s.txn.txnState = .accepted)
        (acceptedStateTimerMTimeout s).stack ⟨rfl, rfl, rfl⟩ rfl (fun h => ?_)
        (fun h => ?_) (by simp [notifiesRprTimeout, htimer])
      · rw [h]
        rfl
      · cases hstate : s.txn.txnState <;> first | rfl | exact absurd hstate h
  | _ => cases timer <;> simp [fsm] at hevent

end SipInviteClientTxn

namespace SipNonInviteClientTxn

/-- Timer E or F leaves the transaction alive, with the flag of a timed out
provisional response up. -/
def notifiesRprTimeout (timer : TimerType) (s : Stack) : Prop :=
  (timer = .timerE ∨ timer = .timerF) ∧
    (s.txn.txnState = .trying ∨ s.txn.txnState = .proceeding) ∧
    s.txn.getMsgSentProto = .udp ∧ s.firstDurationExpired < s.txn.maxDuration ∧
    s.txn.rprTxnTerminated = true

theorem timeoutSpec (immediate : ImmediateTimeout State) (timer : TimerType) (s : Stack)
    (event : Event) (hevent : fsm.timeoutEvent timer = some event)
    (hlive : fsm.isTerminated s.txn.txnState = false) :
    TimeoutSpec fsm s (notifiesRprTimeout timer s) (fsm.invoke immediate event s) := by
  change TimeoutSpec fsm s _ (runAction immediate (table s.txn.txnState event) s)
  cases event with
  | timerEFTimeOut =>
      have htimer : timer = .timerE ∨ timer = .timerF := by
        cases timer <;> simp_all [fsm]
      by_cases hstate : s.txn.txnState = .trying ∨ s.txn.txnState = .proceeding
      · have hresult : runAction immediate (table s.txn.txnState .timerEFTimeOut) s =
            handleTimeout immediate s := by
          rcases hstate with h | h <;> rw [h] <;> rfl
        rw [hresult, handleTimeout_eq]
        refine timeoutSpec_retransmitOr hlive rfl ?_
        simp [notifiesRprTimeout, htimer, hstate, and_assoc]
      · have hentry : table s.txn.txnState .timerEFTimeOut = .handleInvalidStateEvent := by
          cases h : s.txn.txnState <;> simp_all [table]
        rw [hentry]
        exact timeoutSpec_of_not_ok fun h => hstate h.2.1
  | timerKTimeOut =>
      have htimer : timer = .timerK := by
        cases timer <;> simp_all [fsm]
      refine timeoutSpec_of_lastState (s.txn.txnState = .completed)
        (completedStateTimerKTimeout s).stack ⟨rfl, rfl, rfl⟩ rfl (fun h => ?_)
        (fun h => ?_) (by simp [notifiesRprTimeout, htimer])
      · rw [h]
        rfl
      · cases hstate : s.txn.txnState <;> first | rfl | exact absurd hstate h
  | _ => cases timer <;> simp [fsm] at hevent

end SipNonInviteClientTxn

namespace SipNonInviteServerTxn

theorem timeoutSpec (immediate : ImmediateTimeout State) (timer : TimerType) (s : Stack)
    (event : Event) (hevent : fsm.timeoutEvent timer = some event) :
    TimeoutSpec fsm s False (fsm.invoke immediate event s) := by
  change TimeoutSpec fsm s _ (runAction immediate (table s.txn.txnState event) s)
  cases event with
  | timerJTimeOut =>
      refine timeoutSpec_of_lastState (s.txn.txnState = .completed)
        (completedStateTimerJTimeout s).stack ⟨rfl, rfl, rfl⟩ rfl (fun h => ?_)
        (fun h => ?_) not_false
      · rw [h]
        rfl
      · cases hstate : s.txn.txnState <;> first | rfl | exact absurd hstate h
  | _ => cases timer <;> simp [fsm] at hevent

end SipNonInviteServerTxn

namespace SipInviteServerTxn

/-- A timer leaves the transaction alive with the flag of a timed out provisional
response up: the response times out now, or one has timed out before and a later
message is to be sent again. -/
def notifiesRprTimeout (timer : TimerType) (s : Stack) : Prop :=
  (timer = .timerG ∨ timer = .timerH) ∧
    (s.txn.txnState = .proceeding ∧
        (s.txn.rprTxnTerminated = true ∨
          timer = .timerG ∧ s.txn.maxDuration ≤ s.firstDurationExpired) ∨
      s.txn.txnState = .completed ∧ s.txn.getMsgSentProto = .udp ∧
        s.firstDurationExpired < s.txn.maxDuration ∧ s.txn.rprTxnTerminated = true)

theorem timeoutSpec_proceeding (immediate : ImmediateTimeout State) {timer : TimerType}
    (s : Stack) (htimer : timer = .timerG ∨ timer = .timerH)
    (hstate : s.txn.txnState = .proceeding) :
    TimeoutSpec fsm s (notifiesRprTimeout timer s)
      (proceedingStateTimerGHTimeout immediate timer s) := by
  have hkeeps := KeepsTxn.countFirstExpiry s
  by_cases hG : timer = .timerG
  · subst hG
    rw [proceedingStateTimerGHTimeout_eq]
    by_cases h : True ∧ s.firstDurationExpired < s.txn.maxDuration
    · have hkeeps : KeepsTxn s (retransmitOr immediate .timerG True
          (uint32 (s.txn.currentDuration * 2)) (·.setRprTxnTerminated true) s).stack :=
        retransmitOr_keepsTxn h
      refine ⟨hkeeps.keepsRefs, .inl hkeeps.txnState, ?_⟩
      rw [hkeeps.txnState, hkeeps.rprTxnTerminated, hstate, retransmitOr_ok]
      simp [notifiesRprTimeout, hstate, fsm, Nat.not_le.mpr h.2]
    · rw [retransmitOr_of_not h]
      refine ⟨hkeeps.keepsRefs.trans ⟨rfl, rfl, rfl⟩, .inl hkeeps.txnState, fun _ => ?_, fun _ => ⟨rfl, ?_, rfl⟩⟩
      · exact ⟨.inl rfl, .inl ⟨hstate, .inr ⟨rfl, Nat.le_of_not_lt fun h' => h ⟨trivial, h'⟩⟩⟩⟩
      · change fsm.isTerminated s.countFirstExpiry.txn.txnState = false
        rw [hkeeps.txnState, hstate]
        rfl
  · obtain rfl := htimer.resolve_left hG
    rw [proceedingStateTimerGHTimeout_of_ne immediate s hG]
    refine ⟨hkeeps.keepsRefs, .inl hkeeps.txnState, ?_⟩
    rw [hkeeps.txnState, hkeeps.rprTxnTerminated, hstate]
    simp [notifiesRprTimeout, hstate, fsm]

theorem timeoutSpec (immediate : ImmediateTimeout State) (timer : TimerType) (s : Stack)
    (event : Event) (hevent : fsm.timeoutEvent timer = some event)
    (hlive : fsm.isTerminated s.txn.txnState = false) :
    TimeoutSpec fsm s (notifiesRprTimeout timer s) (fsm.invoke immediate event s) := by
  change TimeoutSpec fsm s _ (runAction immediate (table s.txn.txnState event) s)
  cases event with
  | timerGHTimeOut timer' =>
      obtain ⟨rfl, htimer⟩ : timer' = timer ∧ (timer = .timerG ∨ timer = .timerH) := by
        cases timer <;> simp_all [fsm]
      cases hstate : s.txn.txnState with
      | proceeding => exact timeoutSpec_proceeding immediate s htimer hstate
      | completed =>
          change TimeoutSpec fsm s _ (completedStateTimerGHTimeout immediate s)
          rw [completedStateTimerGHTimeout_eq]
          refine timeoutSpec_retransmitOr hlive rfl ?_
          simp [notifiesRprTimeout, htimer, hstate, and_assoc]
      | _ => exact timeoutSpec_of_not_ok (by simp [notifiesRprTimeout, hstate])
  | timerITimeOut =>
      have htimer : timer = .timerI := by
        cases timer <;> simp_all [fsm]
      refine timeoutSpec_of_lastState (s.txn.txnState = .confirmed)
        (confirmedStateTimerITimeout s).stack ⟨rfl, rfl, rfl⟩ rfl (fun h => ?_)
        (fun h => ?_) (by simp [notifiesRprTimeout, htimer])
      · rw [h]
        rfl
      · cases hstate : s.txn.txnState <;> first | rfl | exact absurd hstate h
  | timerLTimeOut =>
      have htimer : timer = .timerL := by
        cases timer <;> simp_all [fsm]
      refine timeoutSpec_of_lastState (s.txn.txnState = .accepted)
        (acceptedStateTimerLTimeout s).stack ⟨rfl, rfl, rfl⟩ rfl (fun h => ?_)
        (fun h => ?_) (by simp [notifiesRprTimeout, htimer])
      · rw [h]
        rfl
      · cases hstate : s.txn.txnState <;> first | rfl | exact absurd hstate h
  | _ => cases timer <;> simp [fsm] at hevent

end SipInviteServerTxn

end ImsStack.Txn
