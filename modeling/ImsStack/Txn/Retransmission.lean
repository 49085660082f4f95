import ImsStack.Txn.Frame
import ImsStack.Txn.SipInviteClientTxn
import ImsStack.Txn.SipInviteServerTxn
import ImsStack.Txn.SipNonInviteClientTxn

/-!
The one shape of the four actions of a retransmission timer: as long as the
limit is not reached the timer is started again, for a duration that differs from
action to action and that the limit shortens; then the action gives up.
-/

namespace ImsStack.Txn

/-- The duration a timer is started again with: the limit shortens it, compared
in the 32 bits of the counters. -/
def shortened (maxDuration durationExpired duration : Nat) : Nat :=
  if maxDuration ≤ uint32 (durationExpired + duration) then maxDuration - durationExpired
  else duration

/-- The shape of the actions: `mayRetransmit` is what an action asks besides the
limit, `duration` what it would start the timer again with, and `giveUp` what it
does to the transaction in the end. -/
def retransmitOr {σ : Type} (immediate : ImmediateTimeout σ) (timer : TimerType)
    (mayRetransmit : Prop) [Decidable mayRetransmit] (duration : Nat)
    (giveUp : SipTxn σ → SipTxn σ) (s : SipStack σ) : FsmResult σ :=
  if mayRetransmit ∧ s.firstDurationExpired < s.txn.maxDuration then
    restartTimer immediate timer
      (shortened s.txn.maxDuration s.firstDurationExpired duration) s.countFirstExpiry
  else { ok := true, stack := s.countFirstExpiry.mapTxn giveUp }

section Shape

variable {σ : Type} {immediate : ImmediateTimeout σ} {timer : TimerType} {mayRetransmit : Prop}
  [Decidable mayRetransmit] {duration : Nat} {giveUp : SipTxn σ → SipTxn σ} {s : SipStack σ}

theorem retransmitOr_of_lt (h : mayRetransmit) (hlt : s.firstDurationExpired < s.txn.maxDuration) :
    retransmitOr immediate timer mayRetransmit duration giveUp s =
      restartTimer immediate timer
        (shortened s.txn.maxDuration s.firstDurationExpired duration) s.countFirstExpiry :=
  if_pos ⟨h, hlt⟩

theorem retransmitOr_of_not
    (h : ¬ (mayRetransmit ∧ s.firstDurationExpired < s.txn.maxDuration)) :
    retransmitOr immediate timer mayRetransmit duration giveUp s =
      { ok := true, stack := s.countFirstExpiry.mapTxn giveUp } :=
  if_neg h

theorem retransmitOr_of_true (h : mayRetransmit) :
    retransmitOr immediate timer mayRetransmit duration giveUp s =
      retransmitOr immediate timer True duration giveUp s := by
  by_cases hlt : s.firstDurationExpired < s.txn.maxDuration
  · rw [retransmitOr_of_lt h hlt, retransmitOr_of_lt trivial hlt]
  · rw [retransmitOr_of_not fun h' => hlt h'.2, retransmitOr_of_not fun h' => hlt h'.2]

theorem retransmitOr_eq :
    retransmitOr immediate timer mayRetransmit duration giveUp s =
      if mayRetransmit then
        if s.txn.maxDuration ≤ s.firstDurationExpired then
          { ok := true, stack := s.countFirstExpiry.mapTxn giveUp }
        else
          restartTimer immediate timer
            (if s.txn.maxDuration ≤ uint32 (s.firstDurationExpired + duration) then
              s.txn.maxDuration - s.firstDurationExpired
            else duration) s.countFirstExpiry
      else { ok := true, stack := s.countFirstExpiry.mapTxn giveUp } := by
  by_cases h : mayRetransmit
  · by_cases hmax : s.txn.maxDuration ≤ s.firstDurationExpired
    · rw [if_pos h, if_pos hmax, retransmitOr_of_not fun h => absurd h.2 (Nat.not_lt.mpr hmax)]
    · rw [if_pos h, if_neg hmax, retransmitOr_of_lt h (Nat.lt_of_not_le hmax)]
      rfl
  · rw [if_neg h, retransmitOr_of_not fun h' => h h'.1]

theorem retransmitOr_ok :
    (retransmitOr immediate timer mayRetransmit duration giveUp s).ok = true := by
  unfold retransmitOr
  split
  · exact restartTimer_ok immediate timer _ _
  · rfl

/-- As long as it retransmits, an action keeps all of the transaction but the
counters and the timer. -/
theorem retransmitOr_keepsTxn
    (h : mayRetransmit ∧ s.firstDurationExpired < s.txn.maxDuration) :
    KeepsTxn s (retransmitOr immediate timer mayRetransmit duration giveUp s).stack := by
  rw [retransmitOr_of_lt h.1 h.2]
  exact (KeepsTxn.countFirstExpiry s).trans (KeepsTxn.restartTimer immediate timer _ _)

end Shape

namespace SipInviteClientTxn

/-- Timers A and B in the state Calling: twice the first power of two above the
number of retransmissions, times T1. -/
theorem callingStateTimerABTimeout_eq (immediate : ImmediateTimeout State) (s : Stack) :
    callingStateTimerABTimeout immediate s =
      retransmitOr immediate .timerA (s.txn.getMsgSentProto = .udp)
        (uint32 (uint32 (2 ^ uint16 (s.txn.retransmissionCount + 1)) *
          s.txn.getTimerValue .timerT1))
        (·.setTxnState .terminated) s := by
  have hkeeps := KeepsTxn.countFirstExpiry s
  have hcount : s.countFirstExpiry.txn.retransmissionCount = s.txn.retransmissionCount := by
    unfold SipStack.countFirstExpiry
    split <;> rfl
  rw [retransmitOr_eq]
  unfold callingStateTimerABTimeout
  simp only [hkeeps.maxDuration, SipTxn.getMsgSentProto, hkeeps.transpInfo, hcount]
  rfl

end SipInviteClientTxn

namespace SipNonInviteClientTxn

/-- Timers E and F: twice the last duration up to T2 in the state Trying, and T2
in the state Proceeding. -/
theorem handleTimeout_eq (immediate : ImmediateTimeout State) (s : Stack) :
    handleTimeout immediate s =
      retransmitOr immediate .timerE (s.txn.getMsgSentProto = .udp)
        (if s.txn.txnState = .trying then
          min (uint32 (s.txn.currentDuration * 2)) (s.txn.getTimerValue .timerT2)
        else s.txn.getTimerValue .timerT2)
        (·.setTxnState .terminated) s := by
  have hkeeps := KeepsTxn.countFirstExpiry s
  have hcurrent : s.countFirstExpiry.txn.currentDuration = s.txn.currentDuration := by
    unfold SipStack.countFirstExpiry
    split <;> rfl
  rw [retransmitOr_eq]
  unfold handleTimeout
  simp only [hkeeps.maxDuration, SipTxn.getMsgSentProto, hkeeps.transpInfo, hkeeps.txnState,
    SipTxn.getTimerValue, hkeeps.txnTimerValues, hcurrent]
  rfl

end SipNonInviteClientTxn

namespace SipInviteServerTxn

variable (immediate : ImmediateTimeout State) (s : Stack)

theorem proceedingStateTimerGHTimeout_eq :
    proceedingStateTimerGHTimeout immediate .timerG s =
      retransmitOr immediate .timerG True (uint32 (s.txn.currentDuration * 2))
        (·.setRprTxnTerminated true) s := by
  have hkeeps := KeepsTxn.countFirstExpiry s
  have hcurrent : s.countFirstExpiry.txn.currentDuration = s.txn.currentDuration := by
    unfold SipStack.countFirstExpiry
    split <;> rfl
  rw [retransmitOr_eq]
  unfold proceedingStateTimerGHTimeout
  simp only [hkeeps.maxDuration, hcurrent, ↓reduceIte]

theorem proceedingStateTimerGHTimeout_of_ne {timer : TimerType} (h : timer ≠ .timerG) :
    proceedingStateTimerGHTimeout immediate timer s =
      { ok := true, stack := s.countFirstExpiry } := by
  unfold proceedingStateTimerGHTimeout
  rw [if_neg h]

theorem completedStateTimerGHTimeout_eq :
    completedStateTimerGHTimeout immediate s =
      retransmitOr immediate .timerG (s.txn.getMsgSentProto = .udp)
        (min (uint32 (s.txn.currentDuration * 2)) (s.txn.getTimerValue .timerT2))
        (·.setTxnState .terminated) s := by
  have hkeeps := KeepsTxn.countFirstExpiry s
  have hcurrent : s.countFirstExpiry.txn.currentDuration = s.txn.currentDuration := by
    unfold SipStack.countFirstExpiry
    split <;> rfl
  rw [retransmitOr_eq]
  unfold completedStateTimerGHTimeout
  simp only [hkeeps.maxDuration, SipTxn.getMsgSentProto, hkeeps.transpInfo,
    SipTxn.getTimerValue, hkeeps.txnTimerValues, hcurrent]
  rfl

end SipInviteServerTxn

end ImsStack.Txn
