import ImsStack.Library.TransitionSystem
import ImsStack.Txn.Retransmission
import ImsStack.Txn.TimerCoverage

/-!
The lifetime of an INVITE client transaction whose request has been sent over TCP and
that receives no response, when the transport handler falls back to UDP on the way.
-/

namespace ImsStack.Txn.SipInviteClientTxn

open TransitionSystem

/-- `SipTxnHandler::OnRecvTranspError`. -/
def handleTranspError (s : Stack) : Stack :=
  let s := (fsm.invokeFsm .transpError s).stack
  if fsm.isTerminated s.txn.txnState then s.removeFromTxnPool else s

/-- `SipStackManager::OnRecvTanspError` with `SipTransportHandler::OnRecvTanspError`.
Whether the Via header of the stored message can be rewritten and whether the message
can be sent again is the environment's. -/
def onRecvTanspError (viaUpdated sendsToNetwork : Bool) (s : Stack) : Stack :=
  if !s.inTxnPool then s
  else
    match s.txn.transpInfo with
    | none | some .invalid => s
    | some .tcp =>
      if !viaUpdated then s
      else
        let s := s.mapTxn fun txn => { txn with transpInfo := some .udp }
        if sendsToNetwork then s else handleTranspError s
    | some _ => handleTranspError s

/-- The report of a transport error makes the handler fall back to UDP. -/
def fallsBack (viaUpdated : Bool) (s : Stack) : Bool :=
  s.inTxnPool && decide (s.txn.transpInfo = some .tcp) && viaUpdated

/-- A transaction without a response: its stack, the durations of the timers armed
since the first send, whether the handler has fallen back, and whether the transaction
has timed out. -/
structure SendRun where
  stack : Stack
  armed : List Nat
  fellBack : Bool
  timedOut : Bool

inductive SendEvent where
  | timerExpired (timer : RunningTimer)
  | transpError (viaUpdated sendsToNetwork : Bool)

/-- The duration of the timer a step has left armed. -/
def armedBy (s : Stack) : List Nat := s.runningTimers.map fun _ => s.txn.currentDuration

inductive SendStep : SendRun → SendEvent → SendRun → Prop where
  | timerExpired (r : SendRun) (timer : RunningTimer) : timer ∈ r.stack.runningTimers →
      SendStep r (.timerExpired timer)
        ⟨(fsm.expire timer r.stack).1, r.armed ++ armedBy (fsm.expire timer r.stack).1, r.fellBack,
          fsm.isTerminated (fsm.expire timer r.stack).1.txn.txnState⟩
  | transpError (r : SendRun) (viaUpdated sendsToNetwork : Bool) :
      SendStep r (.transpError viaUpdated sendsToNetwork)
        ⟨onRecvTanspError viaUpdated sendsToNetwork r.stack, r.armed,
          r.fellBack || fallsBack viaUpdated r.stack, r.timedOut⟩

/-- The INVITE request has been sent over TCP. -/
def sentOverTcp (data : SipTxnFsmData) (key : SipTxnKey) (values : SipTxnTimerValues)
    (keys : List SipTxnKey) (nextTimerId : Nat) : Stack :=
  (fsm.invokeFsm (.sendInvReq data)
    (newStack (newTxn .idle key values) keys nextTimerId)).stack.mapTxn
      fun txn => { txn with transpInfo := some .tcp }

def sendSystem (s₀ : Stack) : System SendRun SendEvent where
  Init r := r = ⟨s₀, [s₀.txn.currentDuration], false, false⟩
  Step := SendStep

/-- Timer B runs, over TCP or after the fallback. -/
structure TimerBRuns (values : SipTxnTimerValues) (fellBack : Bool) (s : Stack) : Prop where
  txnState : s.txn.txnState = .calling
  inTxnPool : s.inTxnPool = true
  slot : s.Slot (some .timerB)
  txnTimerValues : s.txn.txnTimerValues = values
  maxDuration : s.txn.maxDuration = values.getTimerValue .timerB
  durationExpired : s.txn.durationExpired = 0
  transpInfo : s.txn.transpInfo = some (if fellBack then .udp else .tcp)

/-- What every such run keeps true. -/
inductive SendInv (values : SipTxnTimerValues) (r : SendRun) : Prop where
  /-- The first timer runs. -/
  | waiting : TimerBRuns values r.fellBack r.stack →
      r.armed = [values.getTimerValue .timerB] → r.timedOut = false → SendInv values r
  /-- Another timer has been armed after timer B. -/
  | exceeded : values.getTimerValue .timerB < r.armed.sum → r.fellBack = true →
      values.getTimerValue .timerT1 < values.getTimerValue .timerB → SendInv values r
  /-- No timer is armed any more. -/
  | ended : r.stack.runningTimers = [] → r.armed = [values.getTimerValue .timerB] →
      (r.timedOut = true → r.stack.inTxnPool = false ∧
        (r.fellBack = false ∨
          values.getTimerValue .timerB ≤ values.getTimerValue .timerT1)) →
      SendInv values r

variable {values : SipTxnTimerValues} {r r' : SendRun} {s : Stack} {fellBack : Bool}

theorem TimerBRuns.expire_eq (h : TimerBRuns values fellBack s) {timer : RunningTimer}
    (hmem : timer ∈ s.runningTimers) :
    fsm.expire timer s =
      let result := callingStateTimerABTimeout
        (fun timer s => (cbkTxnTimeout fsm (fun _ s => s) timer none s).1) s.increment.released
      if !result.ok then (result.stack.sipDelete, .invokeFsmFailed)
      else if fsm.isTerminated result.stack.txn.txnState then
        (result.stack.removeFromTxnPool.sipDelete, .notified)
      else if result.stack.txn.rprTxnTerminated then (result.stack, .notified)
      else (result.stack.sipDelete, .retransmitted) := by
  obtain ⟨id, hid, htimers⟩ := h.slot
  obtain rfl : timer = ⟨id, .timerB⟩ := by simpa [htimers] using hmem
  have hlive : fsm.isTerminated (s.dropTimer ⟨id, .timerB⟩).txn.txnState = false := by
    rw [show (s.dropTimer ⟨id, .timerB⟩).txn.txnState = .calling from h.txnState]
    rfl
  have hinvoke (immediate : ImmediateTimeout State) :
      fsm.invoke immediate .timerABTimeOut s.increment.released =
        callingStateTimerABTimeout immediate s.increment.released := by
    change runAction immediate (table s.txn.txnState .timerABTimeOut) s.increment.released = _
    rw [h.txnState]
    rfl
  have hevent : fsm.timeoutEvent .timerB = some .timerABTimeOut := rfl
  rw [TxnFsm.expire, cbkTxnTimeout_of_slot _ (s.dropTimer ⟨id, .timerB⟩) h.inTxnPool hid hlive
    hevent, SipStack.dropTimer_increment htimers, hinvoke]

/-- The expiry of timer B ends the transaction, unless the handler has fallen back and
the limit is beyond T1. -/
theorem TimerBRuns.expire_of_end (h : TimerBRuns values fellBack s)
    (hend : fellBack = false ∨
      values.getTimerValue .timerB ≤ values.getTimerValue .timerT1) {timer : RunningTimer}
    (hmem : timer ∈ s.runningTimers) :
    (fsm.expire timer s).1.runningTimers = [] ∧ (fsm.expire timer s).1.inTxnPool = false := by
  have hlimit : ¬ (s.increment.released.txn.getMsgSentProto = .udp ∧
      s.increment.released.firstDurationExpired < s.increment.released.txn.maxDuration) := by
    rintro ⟨hudp, hlt⟩
    rcases hend with hfell | hle
    · have hinfo : s.txn.transpInfo = some .tcp := by
        rw [h.transpInfo, hfell]
        rfl
      change s.txn.transpInfo.getD .invalid = .udp at hudp
      rw [hinfo] at hudp
      exact absurd hudp (by decide)
    · have hfirst : s.increment.released.firstDurationExpired = values.getTimerValue .timerT1 := by
        change (if s.txn.durationExpired = 0 then s.txn.txnTimerValues.getTimerValue .timerT1
          else s.txn.durationExpired) = _
        rw [if_pos h.durationExpired, h.txnTimerValues]
      have hmax : s.increment.released.txn.maxDuration = values.getTimerValue .timerB :=
        h.maxDuration
      rw [hfirst, hmax] at hlt
      exact absurd hle (Nat.not_le.mpr hlt)
  have htimers : s.increment.released.countFirstExpiry.runningTimers = [] := by
    unfold SipStack.countFirstExpiry
    split <;> rfl
  have hpool : s.increment.released.countFirstExpiry.inTxnPool = true :=
    (KeepsTxn.countFirstExpiry _).inTxnPool.trans h.inTxnPool
  rw [h.expire_eq hmem, callingStateTimerABTimeout_eq, retransmitOr_of_not hlimit]
  generalize s.increment.released.countFirstExpiry = s' at htimers hpool
  simp only [SipStack.mapTxn, SipTxn.setTxnState, Bool.not_true, Bool.false_eq_true, ↓reduceIte,
    fsm, decide_true, SipStack.removeFromTxnPool, hpool, SipStack.sipDelete]
  exact ⟨htimers, trivial⟩

/-- After the fallback the expiry of timer B is taken for that of a first timer A: a
timer is armed again, unless its doubled duration is cut off to zero. -/
theorem TimerBRuns.expire_of_restart (h : TimerBRuns values true s)
    (hlt : values.getTimerValue .timerT1 < values.getTimerValue .timerB) {timer : RunningTimer}
    (hmem : timer ∈ s.runningTimers) :
    (∃ nDuration, 0 < nDuration ∧ armedBy (fsm.expire timer s).1 = [nDuration]) ∨
      (fsm.expire timer s).1.runningTimers = [] ∧
        fsm.isTerminated (fsm.expire timer s).1.txn.txnState = false := by
  have hudp : s.increment.released.txn.getMsgSentProto = .udp := by
    change s.txn.transpInfo.getD .invalid = .udp
    rw [h.transpInfo]
    rfl
  have hfirst : s.increment.released.firstDurationExpired = values.getTimerValue .timerT1 := by
    change (if s.txn.durationExpired = 0 then s.txn.txnTimerValues.getTimerValue .timerT1
      else s.txn.durationExpired) = _
    rw [if_pos h.durationExpired, h.txnTimerValues]
  have hmax : s.increment.released.txn.maxDuration = values.getTimerValue .timerB := h.maxDuration
  have htimers : s.increment.released.countFirstExpiry.runningTimers = [] := by
    unfold SipStack.countFirstExpiry
    split <;> rfl
  have hstate : s.increment.released.countFirstExpiry.txn.txnState = .calling :=
    (KeepsTxn.countFirstExpiry _).txnState.trans h.txnState
  rw [h.expire_eq hmem, callingStateTimerABTimeout_eq,
    retransmitOr_of_lt hudp (by rw [hfirst, hmax]; exact hlt)]
  generalize shortened _ _ _ = nDuration
  generalize s.increment.released.countFirstExpiry = s' at htimers hstate
  by_cases hpos : 0 < nDuration
  · refine .inl ⟨nDuration, hpos, ?_⟩
    rw [restartTimer_of_pos _ _ hpos]
    have hlive : fsm.isTerminated s'.txn.txnState = false := by
      rw [hstate]
      rfl
    simp only [SipStack.mapTxn, SipStack.armed, SipTxn.setCurrentDuration,
      SipTxn.increaseDurationExpired, SipTxn.increaseTxnCount, hlive, Bool.not_true,
      Bool.false_eq_true, ↓reduceIte, htimers, List.nil_append]
    split <;> rfl
  · refine .inr ?_
    have hlive : fsm.isTerminated s'.txn.txnState = false := by
      rw [hstate]
      rfl
    rw [restartTimer, if_neg hpos]
    simp only [hlive, Bool.not_true, Bool.false_eq_true, ↓reduceIte]
    split
    · exact ⟨htimers, hlive⟩
    · exact ⟨htimers, hlive⟩

theorem stopTxnTimer_runningTimers_nil (h : s.runningTimers = []) :
    s.stopTxnTimer.runningTimers = [] := by
  unfold SipStack.stopTxnTimer
  split
  · exact h
  · simp [h]

theorem removeFromTxnPool_runningTimers (s : Stack) :
    s.removeFromTxnPool.runningTimers = s.runningTimers := by
  unfold SipStack.removeFromTxnPool
  split <;> rfl

theorem handleTranspError_runningTimers
    (h : (fsm.invokeFsm .transpError s).stack.runningTimers = []) :
    (handleTranspError s).runningTimers = [] := by
  unfold handleTranspError
  dsimp only
  split
  · rw [removeFromTxnPool_runningTimers]
    exact h
  · exact h

/-- A transport error that reaches the state machine while timer B runs stops it. -/
theorem TimerBRuns.handleTranspError (h : TimerBRuns values fellBack s)
    (transpInfo : Option TranspProtocol) :
    (handleTranspError (s.mapTxn fun txn => { txn with transpInfo := transpInfo })).runningTimers =
      [] := by
  refine handleTranspError_runningTimers ?_
  change (runAction _ (table s.txn.txnState .transpError) _).stack.runningTimers = []
  rw [h.txnState]
  change (s.mapTxn fun txn => { txn with transpInfo := transpInfo }).stopTxnTimer.runningTimers = []
  have hslot : (s.mapTxn fun txn => { txn with transpInfo := transpInfo }).Slot (some .timerB) :=
    h.slot.congr rfl rfl
  rw [hslot.stopTxnTimer_eq]
  rfl

theorem invokeFsm_transpError_runningTimers (h : s.runningTimers = []) :
    (fsm.invokeFsm .transpError s).stack.runningTimers = [] := by
  change (runAction _ (table s.txn.txnState .transpError) s).stack.runningTimers = []
  cases s.txn.txnState with
  | calling => exact stopTxnTimer_runningTimers_nil h
  | accepted => exact stopTxnTimer_runningTimers_nil h
  | completed => exact stopTxnTimer_runningTimers_nil h
  | _ => exact h

theorem onRecvTanspError_runningTimers (viaUpdated sendsToNetwork : Bool)
    (h : s.runningTimers = []) :
    (onRecvTanspError viaUpdated sendsToNetwork s).runningTimers = [] := by
  have herror (s : Stack) (h : s.runningTimers = []) : (handleTranspError s).runningTimers = [] :=
    handleTranspError_runningTimers (invokeFsm_transpError_runningTimers h)
  unfold onRecvTanspError
  split
  · exact h
  · split
    · exact h
    · exact h
    · split
      · exact h
      · dsimp only
        split
        · exact h
        · exact herror _ h
    · exact herror s h

/-- A report while timer B runs: nothing changes, the handler falls back and timer B
runs on, or no timer is left. -/
theorem TimerBRuns.onRecvTanspError (h : TimerBRuns values fellBack s)
    (viaUpdated sendsToNetwork : Bool) :
    TimerBRuns values (fellBack || fallsBack viaUpdated s)
        (onRecvTanspError viaUpdated sendsToNetwork s) ∨
      (SipInviteClientTxn.onRecvTanspError viaUpdated sendsToNetwork s).runningTimers = [] := by
  have hpool := h.inTxnPool
  have hinfo := h.transpInfo
  cases fellBack with
  | true =>
      refine .inr ?_
      simp only [↓reduceIte] at hinfo
      simp only [SipInviteClientTxn.onRecvTanspError, hpool, hinfo, Bool.not_true,
        Bool.false_eq_true, ↓reduceIte]
      exact h.handleTranspError s.txn.transpInfo
  | false =>
      simp only [Bool.false_eq_true, ↓reduceIte] at hinfo
      cases viaUpdated with
      | false =>
          refine .inl ?_
          simpa [SipInviteClientTxn.onRecvTanspError, fallsBack, hpool, hinfo] using h
      | true =>
          cases sendsToNetwork with
          | true =>
              refine .inl ?_
              simp only [SipInviteClientTxn.onRecvTanspError, fallsBack, hpool, hinfo, Bool.not_true,
                Bool.false_eq_true, ↓reduceIte, decide_true, Bool.and_self, Bool.or_true]
              exact ⟨h.txnState, h.inTxnPool, h.slot.congr rfl rfl, h.txnTimerValues, h.maxDuration,
                h.durationExpired, rfl⟩
          | false =>
              refine .inr ?_
              simp only [SipInviteClientTxn.onRecvTanspError, hpool, hinfo, Bool.not_true,
                Bool.false_eq_true, ↓reduceIte]
              exact h.handleTranspError (some .udp)

theorem sendInv_step {e : SendEvent} (h : SendInv values r) (hstep : SendStep r e r') :
    SendInv values r' := by
  cases hstep with
  | timerExpired timer hmem =>
      cases h with
      | exceeded hsum hfell hlt =>
          refine .exceeded ?_ hfell hlt
          rw [List.sum_append]
          exact Nat.lt_of_lt_of_le hsum (Nat.le_add_right _ _)
      | ended htimers _ _ =>
          rw [htimers] at hmem
          exact absurd hmem List.not_mem_nil
      | waiting hruns harmed _ =>
          by_cases hend : r.fellBack = false ∨
              values.getTimerValue .timerB ≤ values.getTimerValue .timerT1
          · obtain ⟨htimers, hpool⟩ := hruns.expire_of_end hend hmem
            refine .ended htimers ?_ fun _ => ⟨hpool, hend⟩
            simp [armedBy, htimers, harmed]
          · have hfell : r.fellBack = true := by simpa using fun h => hend (.inl h)
            have hlt := Nat.lt_of_not_le fun h => hend (.inr h)
            rw [hfell] at hruns
            rcases hruns.expire_of_restart hlt hmem with
              ⟨nDuration, hpos, harmedBy⟩ | ⟨htimers, hlive⟩
            · refine .exceeded ?_ hfell hlt
              simp only [harmed, harmedBy, List.sum_append, List.sum_singleton]
              omega
            · refine .ended htimers ?_ fun htimedOut => ?_
              · simp [armedBy, htimers, harmed]
              · exact absurd (hlive.symm.trans htimedOut) Bool.false_ne_true
  | transpError viaUpdated sendsToNetwork =>
      cases h with
      | exceeded hsum hfell hlt =>
          refine .exceeded hsum ?_ hlt
          change (r.fellBack || _) = true
          rw [hfell, Bool.true_or]
      | ended htimers harmed htimedOut =>
          refine .ended (onRecvTanspError_runningTimers viaUpdated sendsToNetwork htimers) harmed
            fun h => ?_
          obtain ⟨hpool, hend⟩ := htimedOut h
          simpa [onRecvTanspError, fallsBack, hpool] using hend
      | waiting hruns harmed htimedOut =>
          rcases hruns.onRecvTanspError viaUpdated sendsToNetwork with hruns' | htimers
          · exact .waiting hruns' harmed htimedOut
          · exact .ended htimers harmed fun h => absurd (htimedOut.symm.trans h) Bool.false_ne_true

theorem timerBRuns_sentOverTcp (data : SipTxnFsmData) (key : SipTxnKey)
    (values : SipTxnTimerValues) (keys : List SipTxnKey) (nextTimerId : Nat)
    (htcp : data.transpProtocol = .tcp) (haccepts : data.poolAccepts = true)
    (hcopy : key.copy.isSome = true) (hB : 0 < values.getTimerValue .timerB) :
    TimerBRuns values false (sentOverTcp data key values keys nextTimerId) ∧
      (sentOverTcp data key values keys nextTimerId).txn.currentDuration =
        values.getTimerValue .timerB := by
  obtain ⟨newTxnKey, hnew⟩ := Option.isSome_iff_exists.mp hcopy
  have hsent : (fsm.invokeFsm (.sendInvReq data)
      (newStack (newTxn .idle key values) keys nextTimerId)).stack =
      ((((newStack (newTxn .idle key values) keys nextTimerId).addToTxnPool.armed .timerB
        (values.getTimerValue .timerB)).mapTxn
          (·.setMaxDuration (values.getTimerValue .timerB))).mapTxn (·.setTxnState .calling)) := by
    change (idleStateSendInviteRequest _ data _).stack = _
    unfold idleStateSendInviteRequest
    rw [show (newStack (newTxn State.idle key values) keys nextTimerId).txn.txnKey.copy =
      some newTxnKey from hnew]
    simp only [haccepts, htcp, Bool.not_true, Bool.false_eq_true, ↓reduceIte, reduceCtorEq]
    rw [SipStack.startTxnTimer_of_pos]
    · rfl
    · exact hB
  rw [sentOverTcp, hsent]
  exact ⟨⟨rfl, rfl, ⟨nextTimerId, rfl, rfl⟩, rfl, rfl, rfl, rfl⟩, rfl⟩

/-- The total of the timers armed until the transaction times out: it is at most timer B
if and only if the handler has not fallen back while timer B ran, or timer B is no longer
than T1. -/
theorem armed_sum_le_iff (data : SipTxnFsmData) (key : SipTxnKey) (values : SipTxnTimerValues)
    (keys : List SipTxnKey) (nextTimerId : Nat) (htcp : data.transpProtocol = .tcp)
    (haccepts : data.poolAccepts = true) (hcopy : key.copy.isSome = true)
    (hT1 : 0 < values.getTimerValue .timerT1)
    (hle : values.getTimerValue .timerT1 ≤ values.getTimerValue .timerB) {r : SendRun}
    (hrun : (sendSystem (sentOverTcp data key values keys nextTimerId)).Reachable r)
    (htimedOut : r.timedOut = true) :
    r.armed.sum ≤ values.getTimerValue .timerB ↔
      r.fellBack = false ∨ values.getTimerValue .timerB = values.getTimerValue .timerT1 := by
  obtain ⟨hruns, hcurrent⟩ := timerBRuns_sentOverTcp data key values keys nextTimerId htcp
    haccepts hcopy (Nat.lt_of_lt_of_le hT1 hle)
  have hinv : SendInv values r := by
    refine System.Reachable.invariant (fun r hinit => ?_) (fun _ _ _ => sendInv_step) hrun
    obtain rfl : r = _ := hinit
    refine .waiting hruns ?_ rfl
    rw [hcurrent]
  cases hinv with
  | waiting _ _ hrunning => exact absurd (hrunning.symm.trans htimedOut) Bool.false_ne_true
  | exceeded hsum hfell hlt =>
      constructor
      · intro h
        exact absurd h (Nat.not_le.mpr hsum)
      · rintro (h | h)
        · exact absurd (h.symm.trans hfell) Bool.false_ne_true
        · exact absurd h (Nat.ne_of_gt hlt)
  | ended _ harmed hend =>
      rw [harmed, List.sum_singleton]
      refine iff_of_true (Nat.le_refl _) ?_
      rcases (hend htimedOut).2 with h | h
      · exact .inl h
      · exact .inr (Nat.le_antisymm h hle)

section Example

/-- Timer values of 500 ms and a timer B of 32 s. -/
def fallbackValues : SipTxnTimerValues where
  getTimerValue timer := if timer = .timerB then 32000 else 500

/-- An INVITE request that is sent over TCP. -/
def tcpInvite : Stack :=
  sentOverTcp { exampleData methodInvite .inviteClient with transpProtocol := .tcp }
    (exampleKey methodInvite .inviteClient) fallbackValues [] 0

/-- The next expiry of a run. -/
def expireNext (r : SendRun) : SendRun :=
  match r.stack.runningTimers with
  | [] => r
  | timer :: _ =>
    ⟨(fsm.expire timer r.stack).1, r.armed ++ armedBy (fsm.expire timer r.stack).1, r.fellBack,
      fsm.isTerminated (fsm.expire timer r.stack).1.txn.txnState⟩

theorem reachable_expireNext {s₀ : Stack} (h : (sendSystem s₀).Reachable r) (n : Nat) :
    (sendSystem s₀).Reachable (expireNext^[n] r) := by
  induction n with
  | zero => exact h
  | succ n ih =>
      rw [Function.iterate_succ_apply']
      generalize expireNext^[n] r = r' at ih
      unfold expireNext
      split
      · exact ih
      · rename_i timer timers htimers
        have hmem : timer ∈ r'.stack.runningTimers := by
          rw [htimers]
          exact List.mem_cons_self
        exact .step (.timerExpired timer) ih (.timerExpired r' timer hmem)

/-- Without a fallback the expiry of timer B is the timeout. -/
theorem armed_sum_le_tcpInvite :
    (expireNext ⟨tcpInvite, [tcpInvite.txn.currentDuration], false, false⟩).armed.sum ≤ 32000 :=
  (armed_sum_le_iff { exampleData methodInvite .inviteClient with transpProtocol := .tcp }
    (exampleKey methodInvite .inviteClient) fallbackValues [] 0 rfl rfl rfl (by decide) (by decide)
    (reachable_expireNext (.init rfl) 1) (by decide)).mpr (.inl rfl)

/-- The fallback while timer B runs: after its 32 s timer A is armed for another 31.5 s
before the transaction times out. -/
theorem not_armed_sum_le :
    ∃ r, (sendSystem tcpInvite).Reachable r ∧ r.timedOut = true ∧
      r.armed = [32000, 1000, 2000, 4000, 8000, 16000, 500] ∧ ¬ r.armed.sum ≤ 32000 := by
  have hnew : (sendSystem tcpInvite).Reachable
      ⟨tcpInvite, [tcpInvite.txn.currentDuration], false, false⟩ := .init rfl
  have hfell : (sendSystem tcpInvite).Reachable
      ⟨onRecvTanspError true true tcpInvite, [tcpInvite.txn.currentDuration],
        false || fallsBack true tcpInvite, false⟩ :=
    .step (.transpError true true) hnew (.transpError _ true true)
  exact ⟨_, reachable_expireNext hfell 7, by decide, by decide, by decide⟩

end Example

end ImsStack.Txn.SipInviteClientTxn
