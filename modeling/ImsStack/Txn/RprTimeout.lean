import ImsStack.Txn.RefBalance

/-!
Timer G after the timeout of a reliable provisional response: the flag of the
timeout is never taken back, and the callback reads it for whatever is sent later.
-/

namespace ImsStack.Txn.SipInviteServerTxn

open TransitionSystem

/-- A step in which a reliable provisional response times out: timer G runs out in
the state Proceeding with the limit reached. -/
def rprTimesOut (s : Stack) : RunEvent Event → Bool
  | .timerExpired timer =>
    timer.timerType = .timerG && s.txn.txnState = .proceeding &&
      s.txn.maxDuration ≤ s.firstDurationExpired
  | _ => false

/-- The runs of the INVITE server transaction that remember whether a reliable
provisional response has timed out. -/
def historySystem : System (Stack × Bool) (RunEvent Event) where
  Init h := h.2 = false ∧ (txnSystem fsm .inviteServer .idle).Init h.1
  Step h e h' := (txnSystem fsm .inviteServer .idle).Step h.1 e h'.1 ∧
    h'.2 = (h.2 || rprTimesOut h.1 e)

/-- The last message is sent again over UDP. -/
def SentAgain (s : Stack) (timer : RunningTimer) : Prop :=
  (fsm.expire timer s).2 = .retransmitted ∧ (fsm.expire timer s).1.txn.transpInfo = some .udp

variable {immediate : ImmediateTimeout State} {s : Stack}

theorem startTxnTimer_rprTxnTerminated (s' : Stack) (hvalues : s.txn.txnTimerValues.InRange)
    (hsame : s'.txn.txnTimerValues = s.txn.txnTimerValues) (timer timer' : TimerType) :
    (s'.startTxnTimer immediate timer (s'.txn.getTimerValue timer')).txn.rprTxnTerminated =
      s'.txn.rprTxnTerminated := by
  have hpos : 0 < s'.txn.getTimerValue timer' := by
    rw [SipTxn.getTimerValue, hsame]
    exact (hvalues timer').1
  rw [SipStack.startTxnTimer_of_pos immediate timer hpos]
  rfl

theorem stopRetransmission_txn (s : Stack) :
    (stopRetransmission s).txn = { s.txn with timerId := none }.initRetransmissionInfo := by
  simp [stopRetransmission]

theorem invoke_rprTxnTerminated (immediate : ImmediateTimeout State) (s : Stack) (event : Event)
    (hvalues : s.txn.txnTimerValues.InRange) (hevent : fsm.isTimeout event = false) :
    (fsm.invoke immediate event s).stack.txn.rprTxnTerminated = s.txn.rprTxnTerminated := by
  change (runAction immediate (table s.txn.txnState event) s).stack.txn.rprTxnTerminated = _
  have hstopped : (stopRetransmission s).txn.rprTxnTerminated = s.txn.rprTxnTerminated := by
    rw [stopRetransmission_txn]
    rfl
  have hvalues' : (stopRetransmission s).txn.txnTimerValues = s.txn.txnTimerValues := by
    rw [stopRetransmission_txn]
    rfl
  cases event with
  | recvInvReq data =>
      cases hstate : s.txn.txnState with
      | idle =>
          simp only [table, runAction, idleStateReceiveInviteRequest]
          cases s.txn.txnKey.copy with
          | none => rfl
          | some newTxnKey =>
              simp only
              split <;> rfl
      | _ => rfl
  | sendNon100ProvResp data =>
      cases hstate : s.txn.txnState with
      | proceeding =>
          simp only [table, runAction, proceedingStateSendNon100ProvisionalResponse]
          split
          · exact (startTxnTimer_rprTxnTerminated ((stopRetransmission s).addKey _) hvalues hvalues'
              .timerG .timerT1).trans hstopped
          · exact hstopped
      | _ => rfl
  | sendFailureResp data =>
      cases hstate : s.txn.txnState with
      | proceeding =>
          simp only [table, runAction, proceedingStateSendFailureResponse]
          split
          · exact (startTxnTimer_rprTxnTerminated _ hvalues hvalues' .timerG .timerT1).trans hstopped
          · exact (startTxnTimer_rprTxnTerminated _ hvalues hvalues' .timerH .timerH).trans hstopped
      | _ => rfl
  | send2xxResp data =>
      cases hstate : s.txn.txnState with
      | proceeding =>
          exact (startTxnTimer_rprTxnTerminated _ hvalues hvalues' .timerL .timerL).trans hstopped
      | _ => rfl
  | recvAckReq data =>
      cases hstate : s.txn.txnState with
      | accepted =>
          simp only [table, runAction, acceptedStateReceiveAckRequest]
          split <;> rfl
      | completed =>
          have hstop : s.stopTxnTimer.txn.txnTimerValues = s.txn.txnTimerValues := by simp
          simp only [table, runAction, completedStateReceiveAckRequest]
          split
          · refine (startTxnTimer_rprTxnTerminated _ hvalues hstop .timerI .timerI).trans ?_
            simp
          · simp [SipTxn.setTxnState]
      | _ => rfl
  | transpError => cases s.txn.txnState <;> rfl
  | _ => exact absurd hevent (by rintro ⟨⟩)

/-- What an expired timer does to the flag: it goes up when a provisional response
times out, and otherwise stays. -/
theorem invoke_timeout_rprTxnTerminated (immediate : ImmediateTimeout State) (s : Stack)
    {timer : TimerType} {event : Event} (hslot : some timer ∈ slots s.txn.txnState) (hevent : fsm.timeoutEvent timer = some event) :
    (fsm.invoke immediate event s).stack.txn.rprTxnTerminated =
      (s.txn.rprTxnTerminated || (timer = .timerG && s.txn.txnState = .proceeding &&
        s.txn.maxDuration ≤ s.firstDurationExpired)) := by
  change (runAction immediate (table s.txn.txnState event) s).stack.txn.rprTxnTerminated = _
  have hcount := KeepsTxn.countFirstExpiry s
  cases hstate : s.txn.txnState with
  | proceeding =>
      obtain rfl : timer = .timerG := by simpa [hstate, slots] using hslot
      obtain rfl : Event.timerGHTimeOut .timerG = event := Option.some.inj hevent
      change (proceedingStateTimerGHTimeout immediate .timerG s).stack.txn.rprTxnTerminated = _
      rw [proceedingStateTimerGHTimeout_eq]
      by_cases hlt : s.firstDurationExpired < s.txn.maxDuration
      · have hkeeps : KeepsTxn s (retransmitOr immediate .timerG True
            (uint32 (s.txn.currentDuration * 2)) (·.setRprTxnTerminated true) s).stack :=
          retransmitOr_keepsTxn ⟨trivial, hlt⟩
        rw [hkeeps.rprTxnTerminated]
        simp [Nat.not_le.mpr hlt]
      · rw [retransmitOr_of_not fun h => hlt h.2]
        simp [SipTxn.setRprTxnTerminated, Nat.le_of_not_lt hlt]
  | completed =>
      have hentry : runAction immediate (table .completed event) s =
          completedStateTimerGHTimeout immediate s := by
        have htimer : timer = .timerG ∨ timer = .timerH := by simpa [hstate, slots] using hslot
        rcases htimer with rfl | rfl <;> cases hevent <;> rfl
      rw [hentry, completedStateTimerGHTimeout_eq]
      by_cases hlt : s.txn.getMsgSentProto = .udp ∧ s.firstDurationExpired < s.txn.maxDuration
      · have hkeeps : KeepsTxn s (retransmitOr immediate .timerG (s.txn.getMsgSentProto = .udp)
            (min (uint32 (s.txn.currentDuration * 2)) (s.txn.getTimerValue .timerT2))
            (·.setTxnState .terminated) s).stack := retransmitOr_keepsTxn hlt
        rw [hkeeps.rprTxnTerminated]
        simp
      · rw [retransmitOr_of_not hlt]
        simp [SipTxn.setTxnState, hcount.rprTxnTerminated]
  | accepted =>
      obtain rfl : timer = .timerL := by simpa [hstate, slots] using hslot
      cases hevent
      simp [table, runAction, acceptedStateTimerLTimeout, SipTxn.setTxnState]
  | confirmed =>
      obtain rfl : timer = .timerI := by simpa [hstate, slots] using hslot
      cases hevent
      simp [table, runAction, confirmedStateTimerITimeout, SipTxn.setTxnState]
  | idle => simp [hstate, slots] at hslot
  | terminated => simp [hstate, slots] at hslot

theorem expire_rprTxnTerminated (h : Inv s) {timer : RunningTimer}
    (hmem : timer ∈ s.runningTimers) :
    (fsm.expire timer s).1.txn.rprTxnTerminated =
      (s.txn.rprTxnTerminated || rprTimesOut s (.timerExpired timer)) := by
  obtain ⟨hslot, -, event, hevent, hexpire⟩ := timerDiscipline.expire_eq h hmem
  have hflag := invoke_timeout_rprTxnTerminated
    (fun timer s => (cbkTxnTimeout fsm (fun _ s => s) timer none s).1) s.increment.released
    hslot hevent
  refine Eq.trans ?_ hflag
  rw [hexpire]
  dsimp only
  split
  · rfl
  · split
    · simp only [SipStack.sipDelete, SipStack.removeFromTxnPool]
      split <;> rfl
    · split <;> rfl

/-- The flag remembers the timeout of a provisional response for the rest of the
run. -/
theorem rprTxnTerminated_of_reachable {timedOut : Bool}
    (h : historySystem.Reachable (s, timedOut)) : Inv s ∧ s.txn.rprTxnTerminated = timedOut := by
  refine System.Reachable.invariant (I := fun r => Inv r.1 ∧ r.1.txn.rprTxnTerminated = r.2)
    (fun r h => ?_) (fun r e r' h hstep => ?_) h
  · obtain ⟨hfalse, hinit⟩ := h
    refine ⟨timerDiscipline.inv_init r.1 hinit, ?_⟩
    obtain ⟨key, values, keys, nextTimerId, -, hstack⟩ := hinit
    rw [hstack, hfalse]
    rfl
  · obtain ⟨hinv, hflag⟩ := h
    obtain ⟨hstep, htimedOut⟩ := hstep
    refine ⟨timerDiscipline.inv_step r.1 e r'.1 hinv hstep, ?_⟩
    rw [htimedOut, ← hflag]
    generalize r'.1 = s' at hstep
    cases hstep with
    | invokeFsm event hevent =>
        simp only [rprTimesOut, Bool.or_false]
        exact invoke_rprTxnTerminated _ r.1 event hinv.values hevent
    | timerExpired timer hmem => exact expire_rprTxnTerminated hinv hmem
    | msgSent transpInfo => simp [rprTimesOut]
    | updateSipTimers options values _ _ => simp [rprTimesOut]
    | prackReceived newTxnKey _ =>
        simp only [rprTimesOut, Bool.or_false]
        simp only [SipStack.prackReceived]
        split
        · rfl
        · split
          · simp
          · rfl
    | otherTxns keys _ => simp [rprTimesOut]
    | removeTxn hterm =>
        simp only [rprTimesOut, Bool.or_false]
        simp only [SipStack.removeFromTxnPool]
        split <;> rfl

/-- A message of the transaction waits for timer G before its limit, over UDP: a
failure response without its ACK, or a reliable provisional response. -/
structure Awaiting (s : Stack) : Prop where
  txnState : s.txn.txnState = .completed ∨ s.txn.txnState = .proceeding
  udp : s.txn.getMsgSentProto = .udp
  beforeLimit : s.firstDurationExpired < s.txn.maxDuration

theorem invoke_keepsTxn (immediate : ImmediateTimeout State) {timer : TimerType} {event : Event}
    (h : Awaiting s) (hslot : some timer ∈ slots s.txn.txnState)
    (hevent : fsm.timeoutEvent timer = some event) :
    (fsm.invoke immediate event s).ok = true ∧ KeepsTxn s (fsm.invoke immediate event s).stack := by
  change (runAction immediate (table s.txn.txnState event) s).ok = true ∧
    KeepsTxn s (runAction immediate (table s.txn.txnState event) s).stack
  rcases h.txnState with hstate | hstate
  · have hentry : runAction immediate (table s.txn.txnState event) s =
        completedStateTimerGHTimeout immediate s := by
      rw [hstate]
      have htimer : timer = .timerG ∨ timer = .timerH := by simpa [hstate, slots] using hslot
      rcases htimer with rfl | rfl <;> cases hevent <;> rfl
    rw [hentry, completedStateTimerGHTimeout_eq]
    exact ⟨retransmitOr_ok, retransmitOr_keepsTxn ⟨h.udp, h.beforeLimit⟩⟩
  · have hentry : runAction immediate (table s.txn.txnState event) s =
        proceedingStateTimerGHTimeout immediate .timerG s := by
      rw [hstate]
      obtain rfl : timer = .timerG := by simpa [hstate, slots] using hslot
      cases hevent
      rfl
    rw [hentry, proceedingStateTimerGHTimeout_eq]
    exact ⟨retransmitOr_ok, retransmitOr_keepsTxn ⟨trivial, h.beforeLimit⟩⟩

/-- An expiry before the limit sends the message again if the flag is down, and is
reported as a timeout if it is up. -/
theorem expire_awaiting (hinv : Inv s) (h : Awaiting s) {timer : RunningTimer}
    (hmem : timer ∈ s.runningTimers) :
    (SentAgain s timer ↔ s.txn.rprTxnTerminated = false) ∧
      ((fsm.expire timer s).2 = .notified ↔ s.txn.rprTxnTerminated = true) := by
  obtain ⟨hslot, -, event, hevent, hexpire⟩ := timerDiscipline.expire_eq hinv hmem
  have hudp : s.txn.transpInfo = some .udp := by
    have := h.udp
    cases hinfo : s.txn.transpInfo <;> simp_all [SipTxn.getMsgSentProto]
  obtain ⟨hok, hkeeps⟩ := invoke_keepsTxn
    (fun timer s => (cbkTxnTimeout fsm (fun _ s => s) timer none s).1)
    (s := s.increment.released) ⟨h.txnState, h.udp, h.beforeLimit⟩ hslot hevent
  have hlive : fsm.isTerminated (fsm.invoke
      (fun timer s => (cbkTxnTimeout fsm (fun _ s => s) timer none s).1) event
      s.increment.released).stack.txn.txnState = false := by
    rw [hkeeps.txnState]
    change fsm.isTerminated s.txn.txnState = false
    rcases h.txnState with hstate | hstate <;> rw [hstate] <;> rfl
  have hflag := hkeeps.rprTxnTerminated
  have hinfo := hkeeps.transpInfo
  change _ = s.txn.rprTxnTerminated at hflag
  change _ = s.txn.transpInfo at hinfo
  unfold SentAgain
  rw [hexpire]
  simp only [hok, hlive, hflag, Bool.not_true, Bool.false_eq_true, ↓reduceIte]
  cases s.txn.rprTxnTerminated with
  | true => simp
  | false => simpa [SipStack.sipDelete, hudp] using hinfo

/-- In every run and every state of it in which a message waits for timer G before
its limit: the expiry sends the message again if and only if no reliable
provisional response has timed out before, and otherwise is reported as a timeout. -/
theorem sentAgain_iff_noRprTimedOut {s : Stack} {timedOut : Bool}
    (hrun : historySystem.Reachable (s, timedOut)) (h : Awaiting s) {timer : RunningTimer}
    (hmem : timer ∈ s.runningTimers) :
    (SentAgain s timer ↔ timedOut = false) ∧
      ((fsm.expire timer s).2 = .notified ↔ timedOut = true) := by
  obtain ⟨hinv, hflag⟩ := rprTxnTerminated_of_reachable hrun
  rw [← hflag]
  exact expire_awaiting hinv h hmem

section Example

/-- The next expiry of a run with its history. -/
def historyExpire (h : Stack × Bool) : Stack × Bool :=
  match h.1.runningTimers with
  | [] => h
  | timer :: _ => ((fsm.expire timer h.1).1, h.2 || rprTimesOut h.1 (.timerExpired timer))

theorem reachable_historyExpire {h : Stack × Bool} (hrun : historySystem.Reachable h) :
    historySystem.Reachable (historyExpire h) := by
  unfold historyExpire
  split
  · exact hrun
  · rename_i timer timers htimers
    have hmem : timer ∈ h.1.runningTimers := by
      rw [htimers]
      exact List.mem_cons_self
    exact .step (.timerExpired timer) hrun ⟨.timerExpired h.1 timer hmem, rfl⟩

/-- Timer H is 32 s long, every other timer 500 ms. -/
def rprValues : SipTimerValues := ⟨fun timer => if timer = .timerH then 32000#32 else 500#32⟩

theorem rprValues_positive : rprValues.Positive := by
  intro timer
  cases timer <;> decide

def rprData (statusCode : Nat) (rSeq : Option Nat) : SipTxnFsmData :=
  { exampleData methodInvite .inviteServer with
    sipMsgIn := ⟨exampleKey methodInvite .inviteServer, statusCode, rSeq, none⟩ }

/-- A message is put through the state machine and handed to UDP. -/
def sent (event : Event) (s : Stack) : Stack :=
  (fsm.invokeFsm event s).stack.mapTxn fun txn => { txn with transpInfo := some .udp }

theorem reachable_sent {s : Stack} {timedOut : Bool}
    (hrun : historySystem.Reachable (s, timedOut)) (event : Event)
    (hevent : fsm.isTimeout event = false) :
    historySystem.Reachable (sent event s, timedOut) := by
  have hinvoked : historySystem.Reachable ((fsm.invokeFsm event s).stack, timedOut) :=
    .step (.invokeFsm event) hrun ⟨.invokeFsm s event hevent, by simp [rprTimesOut]⟩
  exact .step (.msgSent (some .udp)) hinvoked
    ⟨.msgSent (fsm.invokeFsm event s).stack (some .udp), by simp [rprTimesOut]⟩

/-- The transaction when an INVITE request has been received and 183 has been sent
reliably. -/
def provisional : Stack :=
  sent (.sendNon100ProvResp (rprData 183 (some 1)))
    (fsm.invokeFsm (.recvInvReq (rprData 0 none)) (newStack (newTxn .idle
      (exampleKey methodInvite .inviteServer) rprValues.toTxnTimerValues) [] 0)).stack

theorem provisional_reachable : historySystem.Reachable (provisional, false) := by
  have hnew : historySystem.Reachable (newStack (newTxn .idle
      (exampleKey methodInvite .inviteServer) rprValues.toTxnTimerValues) [] 0, false) :=
    .init ⟨rfl, _, _, _, _, rprValues_positive, rfl⟩
  exact reachable_sent (.step _ hnew ⟨.invokeFsm _ _ rfl, rfl⟩) _ rfl

/-- The transaction when nobody has acknowledged the 183 response, it has timed out
and 486 has been sent. -/
def rejected : Stack × Bool :=
  let h := historyExpire^[7] (provisional, false)
  (sent (.sendFailureResp (rprData 486 none)) h.1, h.2)

theorem rejected_reachable : historySystem.Reachable rejected := by
  have hexpired (n : Nat) : historySystem.Reachable (historyExpire^[n] (provisional, false)) := by
    induction n with
    | zero => exact provisional_reachable
    | succ n ih =>
        rw [Function.iterate_succ_apply']
        exact reachable_historyExpire ih
  exact reachable_sent (hexpired 7) (.sendFailureResp (rprData 486 none)) rfl

/-- The first expiry after the 183 response sends it again. -/
theorem sentAgain_provisional : SentAgain provisional ⟨0, .timerG⟩ :=
  (sentAgain_iff_noRprTimedOut provisional_reachable ⟨by decide, by decide, by decide⟩
    (by decide)).1.mpr rfl

/-- The final response 486 after a 183 response that has timed out: timer G runs
out long before timer H, and instead of sending 486 again the callback reports a
timeout. -/
theorem not_sentAgain :
    historySystem.Reachable rejected ∧ Awaiting rejected.1 ∧
      rejected.1.txn.txnState = .completed ∧ ⟨7, .timerG⟩ ∈ rejected.1.runningTimers ∧
      (fsm.expire ⟨7, .timerG⟩ rejected.1).2 = .notified ∧
      ¬ SentAgain rejected.1 ⟨7, .timerG⟩ := by
  refine ⟨rejected_reachable, ⟨by decide, by decide, by decide⟩, by decide, by decide, by decide,
    ?_⟩
  unfold SentAgain
  decide

end Example

end ImsStack.Txn.SipInviteServerTxn
