import Mathlib.Algebra.Ring.Parity
import Mathlib.Data.Nat.Prime.Basic
import Mathlib.Tactic.Ring
import ImsStack.Txn.SipInviteClientTxn
import ImsStack.Txn.SipInviteServerTxn
import ImsStack.Txn.TimerSlot

/-!
The timers of the two INVITE state machines: what the slot holds in each state,
and that every action keeps it so.  The client doubles timer A in 32 bits, and
the server must not lose its timer to a late PRACK request.
-/

namespace ImsStack.Txn.SipInviteClientTxn

open SipStack

/-- The time expired when timer A has run `count + 1` times from T1 on, each time
twice as long, as 32 bits hold it. -/
def backoff (nT1Val count : Nat) : Nat := uint32 (nT1Val * (2 ^ (count + 1) - 1))

theorem backoff_add (nT1Val count : Nat) :
    nT1Val * (2 ^ (count + 1) - 1) + nT1Val = 2 ^ (count + 1) * nT1Val := by
  have hpos : 1 ≤ 2 ^ (count + 1) := Nat.one_le_two_pow
  calc nT1Val * (2 ^ (count + 1) - 1) + nT1Val
      = nT1Val * (2 ^ (count + 1) - 1 + 1) := by ring
    _ = 2 ^ (count + 1) * nT1Val := by rw [Nat.sub_add_cancel hpos, Nat.mul_comm]

/-- As long as the time expired has not wrapped beyond 31 bits, the next duration
of timer A is the time expired and T1, so it is not zero. -/
theorem nextDuration_eq {nT1Val count : Nat} (hT1 : nT1Val < 2 ^ 31)
    (hlt : backoff nT1Val count < 2 ^ 31) :
    uint32 (uint32 (2 ^ (count + 1)) * nT1Val) = backoff nT1Val count + nT1Val := by
  simp only [backoff, uint32] at *
  rw [Nat.mod_mul_mod, ← backoff_add, Nat.add_mod]
  omega

theorem backoff_succ {nT1Val count : Nat} (hT1 : nT1Val < 2 ^ 31)
    (hlt : backoff nT1Val count < 2 ^ 31) :
    uint32 (backoff nT1Val count + uint32 (uint32 (2 ^ (count + 1)) * nT1Val)) =
      backoff nT1Val (count + 1) := by
  have hnext := backoff_add nT1Val (count + 1)
  have hsum := backoff_add nT1Val count
  have hdouble : 2 ^ (count + 1 + 1) * nT1Val =
      2 ^ (count + 1) * nT1Val + 2 ^ (count + 1) * nT1Val := by ring
  rw [nextDuration_eq hT1 hlt]
  simp only [backoff, uint32] at *
  omega

theorem backoff_pos {nT1Val : Nat} (count : Nat) (hpos : 0 < nT1Val) (hT1 : nT1Val < 2 ^ 31) :
    0 < backoff nT1Val count := by
  have hodd : Odd (2 ^ (count + 1) - 1) :=
    Nat.Even.sub_odd Nat.one_le_two_pow ((Nat.even_pow.mpr ⟨even_two, count.succ_ne_zero⟩))
      odd_one
  have hcoprime : Nat.Coprime (2 ^ 32) (2 ^ (count + 1) - 1) :=
    (Nat.coprime_two_left.mpr hodd).pow_left 32
  refine Nat.pos_of_ne_zero fun hzero => ?_
  have hdvd : 2 ^ 32 ∣ nT1Val :=
    hcoprime.dvd_of_dvd_mul_right (Nat.dvd_of_mod_eq_zero hzero)
  have := Nat.le_of_dvd hpos hdvd
  omega

/-- Timer A has run at most 32 times before the transaction times out: the shift
by the number of retransmissions stays below the width of the word. -/
theorem count_lt {nT1Val count : Nat} (hpos : 0 < nT1Val) (hT1 : nT1Val < 2 ^ 31)
    (hcount : count ≤ 31) (hlt : backoff nT1Val count < 2 ^ 31) : count + 1 ≤ 31 := by
  by_contra hge
  obtain rfl : count = 31 := by omega
  have hnext := nextDuration_eq hT1 hlt
  simp only [uint32, Nat.reduceAdd, Nat.reducePow, Nat.mod_self, Nat.zero_mul,
    Nat.zero_mod] at hnext
  omega

/-- The states a transaction leaves only when a timer expires. -/
def leavesOnlyByTime : State → Bool
  | .calling | .accepted | .completed => true
  | _ => false

/-- What the timer slot holds in each state. -/
def slots : State → List (Option TimerType)
  | .idle | .proceeding | .terminated => [none]
  | .calling => [some .timerA, some .timerB]
  | .accepted => [some .timerM]
  | .completed => [some .timerD]

/-- The time expired in the state Calling is all of timer B, or what doubling
timer A adds up to. -/
structure Doubling (txn : SipTxn State) (expired : Nat) : Prop where
  max : 0 < txn.maxDuration ∧ txn.maxDuration < 2 ^ 31
  count : txn.retransmissionCount ≤ 31
  expired : expired = txn.maxDuration ∨
    expired = backoff (txn.getTimerValue .timerT1) txn.retransmissionCount

structure Backoff (s : Stack) : Prop where
  idle : s.txn.txnState = .idle → s.txn.retransmissionCount = 0 ∧ s.txn.durationExpired = 0
  calling : s.txn.txnState = .calling → Doubling s.txn s.firstDurationExpired

abbrev Inv := TxnInv fsm .idle slots Backoff

variable {immediate : ImmediateTimeout State} {s : Stack} {data : SipTxnFsmData}

theorem backoff_of_ne (hidle : s.txn.txnState ≠ .idle) (hcalling : s.txn.txnState ≠ .calling) :
    Backoff s :=
  ⟨fun h => absurd h hidle, fun h => absurd h hcalling⟩

theorem inv_keys (h : Inv s) (keys : List SipTxnKey) : Inv { s with txnKeyList := keys } := by
  obtain ⟨slot, hslot, hs⟩ := h.slot
  exact ⟨h.values, ⟨slot, hslot, hs.congr rfl rfl⟩, h.pooled, h.data.idle, h.data.calling⟩

theorem inv_disarmed (state : State) (hvalues : s.txn.txnTimerValues.InRange)
    (hs : s.Slot none) (hpool : s.inTxnPool = true) (hslot : none ∈ slots state)
    (hidle : state ≠ .idle) : Inv (s.mapTxn (·.setTxnState state)) := by
  refine ⟨hvalues, ⟨none, hslot, hs.congr rfl rfl⟩, fun _ _ => hpool, backoff_of_ne hidle ?_⟩
  rintro rfl
  simp [slots] at hslot

/-- Accepted and Completed are entered by starting their timer with the slot
empty. -/
theorem inv_armed (state : State) (timer : TimerType) (duration : Nat)
    (hvalues : s.txn.txnTimerValues.InRange) (hs : s.Slot none) (hpool : s.inTxnPool = true)
    (hslot : some timer ∈ slots state) (hcalling : state ≠ .calling) :
    Inv ((s.armed timer duration).mapTxn (·.setTxnState state)) := by
  refine ⟨hvalues, ⟨some timer, hslot, hs.arm rfl rfl⟩, fun _ _ => hpool,
    backoff_of_ne ?_ hcalling⟩
  rintro rfl
  simp [slots] at hslot

theorem inv_calling (s : Stack) (timer : TimerType) (duration : Nat)
    (hvalues : s.txn.txnTimerValues.InRange) (hs : s.Slot none) (hpool : s.inTxnPool = true)
    (hslot : some timer ∈ slots .calling)
    (hcount : s.txn.retransmissionCount = 0 ∧ s.txn.durationExpired = 0) :
    Inv (((s.armed timer duration).mapTxn
      (·.setMaxDuration (s.txn.getTimerValue .timerB))).mapTxn (·.setTxnState .calling)) := by
  have hfirst : backoff (s.txn.getTimerValue .timerT1) 0 = s.txn.getTimerValue .timerT1 := by
    have := (hvalues .timerT1).2
    simp only [backoff, uint32, SipTxn.getTimerValue]
    omega
  refine ⟨hvalues, ⟨some timer, hslot, hs.arm rfl rfl⟩, fun _ _ => hpool, (by rintro ⟨⟩), fun _ => ?_⟩
  refine ⟨hvalues .timerB, ?_, .inr ?_⟩
  · change s.txn.retransmissionCount ≤ 31
    omega
  · change (if s.txn.durationExpired = 0 then _ else _) =
      backoff (s.txn.getTimerValue .timerT1) s.txn.retransmissionCount
    rw [if_pos hcount.2, hcount.1, hfirst]
    rfl

theorem idleStateSendInviteRequest_inv (h : Inv s) (hs : s.Slot none)
    (hstate : s.txn.txnState = .idle) :
    Inv (idleStateSendInviteRequest immediate data s).stack := by
  have hT1 : 0 < s.addToTxnPool.txn.getTimerValue .timerT1 := h.timerValue_pos .timerT1
  have hTB : 0 < s.addToTxnPool.txn.getTimerValue .timerB := h.timerValue_pos .timerB
  have hs' : s.addToTxnPool.Slot none := hs.congr rfl rfl
  unfold idleStateSendInviteRequest
  cases s.txn.txnKey.copy with
  | none => exact h
  | some newTxnKey =>
      simp only [startTxnTimer_of_pos _ _ hT1, startTxnTimer_of_pos _ _ hTB]
      split
      · exact h
      · split
        · exact inv_calling s.addToTxnPool .timerA _ h.values hs' rfl (by simp [slots])
            (h.data.idle hstate)
        · exact inv_calling s.addToTxnPool .timerB _ h.values hs' rfl (by simp [slots])
            (h.data.idle hstate)

theorem restartTimer_inv (s : Stack) {duration : Nat} (hvalues : s.txn.txnTimerValues.InRange)
    (hs : s.Slot none) (hpool : s.inTxnPool = true) (hstate : s.txn.txnState = .calling)
    (hmax : 0 < s.txn.maxDuration ∧ s.txn.maxDuration < 2 ^ 31)
    (hcount : s.txn.retransmissionCount + 1 ≤ 31) (hpos : 0 < duration)
    (hsum : 0 < uint32 (s.txn.durationExpired + duration))
    (hexpired : uint32 (s.txn.durationExpired + duration) = s.txn.maxDuration ∨
      uint32 (s.txn.durationExpired + duration) =
        backoff (s.txn.getTimerValue .timerT1) (s.txn.retransmissionCount + 1)) :
    (restartTimer immediate .timerA duration s).ok = true ∧
      Inv (restartTimer immediate .timerA duration s).stack := by
  have huint16 : uint16 (s.txn.retransmissionCount + 1) = s.txn.retransmissionCount + 1 := by
    simp only [uint16]
    omega
  rw [restartTimer_of_pos immediate .timerA hpos]
  refine ⟨rfl, hvalues, ⟨some .timerA, ?_, hs.arm rfl rfl⟩, fun _ _ => hpool, ?_, fun _ => ?_⟩
  · change some .timerA ∈ slots s.txn.txnState
    simp [hstate, slots]
  · intro hidle
    exact absurd (hstate.symm.trans hidle) nofun
  · refine ⟨hmax, ?_, ?_⟩
    · change uint16 (s.txn.retransmissionCount + 1) ≤ 31
      omega
    · change (if uint32 (s.txn.durationExpired + duration) = 0 then _ else
          uint32 (s.txn.durationExpired + duration)) = s.txn.maxDuration ∨
        (if uint32 (s.txn.durationExpired + duration) = 0 then _ else
          uint32 (s.txn.durationExpired + duration)) =
            backoff (s.txn.getTimerValue .timerT1) (uint16 (s.txn.retransmissionCount + 1))
      rw [if_neg (Nat.ne_of_gt hsum), huint16]
      exact hexpired

theorem callingStateTimerABTimeout_inv (h : Inv s) (hstate : s.txn.txnState = .calling) :
    (callingStateTimerABTimeout immediate s.released).ok = true ∧
      Inv (callingStateTimerABTimeout immediate s.released).stack := by
  have hpool : s.inTxnPool = true := h.pooled (by simp [hstate]) (by simp [hstate, fsm])
  have hT1 := h.values .timerT1
  have hs := slot_released s
  obtain ⟨hmax, hcount, hexpired⟩ := h.data.calling hstate
  simp only [callingStateTimerABTimeout, countFirstExpiry_eq (s := s.released) hT1.2]
  split
  · split
    · exact ⟨rfl, inv_disarmed _ h.values (hs.congr rfl rfl) hpool (by simp [slots]) nofun⟩
    · rename_i hlt
      replace hlt : s.firstDurationExpired < s.txn.maxDuration := Nat.lt_of_not_le hlt
      replace hexpired := hexpired.resolve_left (Nat.ne_of_lt hlt)
      have hbackoff : backoff (s.txn.getTimerValue .timerT1) s.txn.retransmissionCount < 2 ^ 31 := by
        omega
      have hcount' := count_lt hT1.1 hT1.2 hcount hbackoff
      have huint16 : uint16 (s.txn.retransmissionCount + 1) = s.txn.retransmissionCount + 1 := by
        simp only [uint16]
        omega
      split
      · -- Timer B runs out first: the timer is cut down to what is left of it.
        have hsum : uint32 (s.firstDurationExpired + (s.txn.maxDuration - s.firstDurationExpired)) =
            s.txn.maxDuration := by
          simp only [uint32]
          omega
        exact restartTimer_inv _ h.values (hs.congr rfl rfl) hpool hstate hmax hcount'
          (Nat.sub_pos_of_lt hlt) (Nat.lt_of_lt_of_eq hmax.1 hsum.symm) (.inl hsum)
      · have hnext := nextDuration_eq hT1.2 hbackoff
        have hpos : 0 < uint32 (uint32 (2 ^ uint16 (s.txn.retransmissionCount + 1)) *
            s.txn.getTimerValue .timerT1) := by
          have hT1pos : 0 < s.txn.getTimerValue .timerT1 := hT1.1
          rw [huint16]
          exact Nat.lt_of_lt_of_eq (Nat.add_pos_right _ hT1pos) hnext.symm
        have hsum : uint32 (s.firstDurationExpired + uint32 (uint32
            (2 ^ uint16 (s.txn.retransmissionCount + 1)) * s.txn.getTimerValue .timerT1)) =
            backoff (s.txn.getTimerValue .timerT1) (s.txn.retransmissionCount + 1) := by
          rw [huint16, hexpired]
          exact backoff_succ hT1.2 hbackoff
        exact restartTimer_inv _ h.values (hs.congr rfl rfl) hpool hstate hmax hcount' hpos
          (Nat.lt_of_lt_of_eq (backoff_pos _ hT1.1 hT1.2) hsum.symm) (.inr hsum)
  · exact ⟨rfl, inv_disarmed _ h.values (hs.congr rfl rfl) hpool (by simp [slots]) nofun⟩

theorem handleFailureResponse_inv (hvalues : s.txn.txnTimerValues.InRange) (hs : s.Slot none)
    (hpool : s.inTxnPool = true) : Inv (handleFailureResponse immediate s).stack := by
  have hTD : 0 < s.txn.getTimerValue .timerD := (hvalues .timerD).1
  simp only [handleFailureResponse, startTxnTimer_of_pos _ _ hTD]
  exact inv_armed .completed .timerD _ hvalues hs hpool (by simp [slots]) nofun

theorem callingStateReceive1xxResponse_inv (h : Inv s) (hpool : s.inTxnPool = true) :
    Inv (callingStateReceive1xxResponse data s).stack := by
  obtain ⟨slot, -, hs⟩ := h.slot
  have hproceeding (keys : List SipTxnKey) :
      Inv (({ s.released with txnKeyList := keys } : Stack).mapTxn (·.setTxnState .proceeding)) :=
    inv_disarmed _ h.values ((slot_released s).congr rfl rfl) hpool (by simp [slots]) nofun
  simp only [callingStateReceive1xxResponse, hs.stopTxnTimer_eq]
  split
  · exact hproceeding _
  · exact hproceeding s.txnKeyList

theorem callingStateReceive2xxResponse_inv (h : Inv s) (hpool : s.inTxnPool = true) :
    Inv (callingStateReceive2xxResponse immediate s).stack := by
  obtain ⟨slot, -, hs⟩ := h.slot
  have hTM : 0 < s.released.txn.getTimerValue .timerM := h.timerValue_pos .timerM
  simp only [callingStateReceive2xxResponse, hs.stopTxnTimer_eq, startTxnTimer_of_pos _ _ hTM]
  exact inv_armed .accepted .timerM _ h.values (slot_released s) hpool (by simp [slots]) nofun

theorem callingStateReceiveFailureResponse_inv (h : Inv s) (hpool : s.inTxnPool = true) :
    Inv (callingStateReceiveFailureResponse immediate s).stack := by
  obtain ⟨slot, -, hs⟩ := h.slot
  rw [callingStateReceiveFailureResponse, hs.stopTxnTimer_eq]
  exact handleFailureResponse_inv h.values (slot_released s) hpool

theorem transportError_inv (h : Inv s) (hpool : s.inTxnPool = true) (keys : List SipTxnKey) :
    Inv (({ s.stopTxnTimer with txnKeyList := keys } : Stack).mapTxn
      (·.setTxnState .terminated)) := by
  obtain ⟨slot, -, hs⟩ := h.slot
  rw [hs.stopTxnTimer_eq]
  exact inv_disarmed _ h.values ((slot_released s).congr rfl rfl) hpool (by simp [slots]) nofun

theorem proceedingStateReceive1xxResponse_inv (h : Inv s) :
    Inv (proceedingStateReceive1xxResponse data s).stack := by
  unfold proceedingStateReceive1xxResponse
  split
  · simp only
    split
    · exact h
    · split
      · split
        · exact h
        · exact inv_keys h _
      · exact inv_keys h _
  · exact h

theorem proceedingStateReceive2xxResponse_inv (h : Inv s) (hs : s.Slot none)
    (hpool : s.inTxnPool = true) :
    Inv (proceedingStateReceive2xxResponse immediate data s).stack := by
  have hTM (key : SipTxnKey) : 0 < (s.deleteKeys key true).txn.getTimerValue .timerM :=
    h.timerValue_pos .timerM
  simp only [proceedingStateReceive2xxResponse, startTxnTimer_of_pos _ _ (hTM _)]
  exact inv_armed .accepted .timerM _ h.values (hs.congr rfl rfl) hpool (by simp [slots]) nofun

theorem invoke_inv (immediate : ImmediateTimeout State) (s : Stack) (event : Event) (h : Inv s)
    (hevent : fsm.isTimeout event = false) :
    Inv (fsm.invoke immediate event s).stack := by
  change Inv (runAction immediate (table s.txn.txnState event) s).stack
  have hpool := h.pooled
  have hempty (hslots : slots s.txn.txnState = [none]) : s.Slot none := by
    obtain ⟨slot, hslot, hs⟩ := h.slot
    rw [hslots, List.mem_singleton] at hslot
    exact hslot ▸ hs
  cases event with
  | sendInvReq data =>
      cases hstate : s.txn.txnState with
      | idle => exact idleStateSendInviteRequest_inv h (hempty (by simp [hstate, slots])) hstate
      | _ => exact h
  | recv1xxResp data =>
      cases hstate : s.txn.txnState with
      | calling =>
          rw [hstate] at hpool
          exact callingStateReceive1xxResponse_inv h (hpool nofun rfl)
      | proceeding => exact proceedingStateReceive1xxResponse_inv h
      | _ => exact h
  | recv2xxResp data =>
      cases hstate : s.txn.txnState with
      | calling =>
          rw [hstate] at hpool
          exact callingStateReceive2xxResponse_inv h (hpool nofun rfl)
      | proceeding =>
          rw [hstate] at hpool
          exact proceedingStateReceive2xxResponse_inv h (hempty (by simp [hstate, slots]))
            (hpool nofun rfl)
      | accepted => exact inv_keys h _
      | _ => exact h
  | recvFailureResp data =>
      cases hstate : s.txn.txnState with
      | calling =>
          rw [hstate] at hpool
          exact callingStateReceiveFailureResponse_inv h (hpool nofun rfl)
      | proceeding =>
          rw [hstate] at hpool
          exact handleFailureResponse_inv h.values
            ((hempty (by simp [hstate, slots])).congr rfl rfl) (hpool nofun rfl)
      | accepted => exact inv_keys h _
      | _ => exact h
  | transpError =>
      cases hstate : s.txn.txnState with
      | calling | accepted | completed =>
          rw [hstate] at hpool
          exact transportError_inv h (hpool nofun rfl) _
      | proceeding =>
          rw [hstate] at hpool
          exact inv_disarmed _ h.values (hempty (by simp [hstate, slots])) (hpool nofun rfl)
            (by simp [slots]) nofun
      | _ => exact h
  | timerABTimeOut => cases hevent
  | timerDTimeOut => cases hevent
  | timerMTimeOut => cases hevent

theorem timeout_inv (immediate : ImmediateTimeout State) (s : Stack) (timer : TimerType)
    (event : Event) (h : Inv s) (_ : s.Slot (some timer))
    (hslot : some timer ∈ slots s.txn.txnState) (hevent : fsm.timeoutEvent timer = some event) :
    (fsm.invoke immediate event s.released).ok = true ∧
      Inv (fsm.invoke immediate event s.released).stack := by
  change (runAction immediate (table s.txn.txnState event) s.released).ok = true ∧
    Inv (runAction immediate (table s.txn.txnState event) s.released).stack
  have hpool := h.pooled
  cases hstate : s.txn.txnState with
  | calling =>
      rw [hstate] at hslot
      obtain rfl : .timerABTimeOut = event := by
        rcases (by simpa [slots] using hslot : timer = .timerA ∨ timer = .timerB) with rfl | rfl
          <;> simpa [fsm] using hevent
      exact callingStateTimerABTimeout_inv h hstate
  | accepted =>
      rw [hstate] at hslot hpool
      obtain rfl : timer = .timerM := by simpa [slots] using hslot
      obtain rfl : .timerMTimeOut = event := by simpa [fsm] using hevent
      exact ⟨rfl, inv_disarmed _ h.values ((slot_released s).congr rfl rfl) (hpool nofun rfl)
        (by simp [slots]) nofun⟩
  | completed =>
      rw [hstate] at hslot hpool
      obtain rfl : timer = .timerD := by simpa [slots] using hslot
      obtain rfl : .timerDTimeOut = event := by simpa [fsm] using hevent
      exact ⟨rfl, inv_disarmed _ h.values (slot_released s) (hpool nofun rfl) (by simp [slots])
        nofun⟩
  | _ => simp [hstate, slots] at hslot

theorem timerDiscipline : TimerDiscipline fsm .inviteClient .idle slots Backoff
    fun state event => table state event ≠ .handleInvalidStateEvent where
  idle_slot := ⟨List.mem_singleton_self _, rfl⟩
  idle_disarmed timer := by simp [slots]
  terminated_slot state h := by cases state <;> simp_all [fsm, slots]
  slot_handled state timer h := by
    cases state <;> simp [slots] at h
    · rcases h with rfl | rfl <;> exact ⟨.timerABTimeOut, rfl, nofun⟩
    · subst h
      exact ⟨.timerMTimeOut, rfl, nofun⟩
    · subst h
      exact ⟨.timerDTimeOut, rfl, nofun⟩
  frame s _ _ _ h := by
    refine ⟨h.idle, fun hstate => ?_⟩
    obtain ⟨hmax, hcount, hexpired⟩ := h.calling hstate
    exact ⟨hmax, hcount, hexpired⟩
  init _ _ _ _ _ := ⟨fun _ => ⟨rfl, rfl⟩, nofun⟩
  invoke := invoke_inv
  timeout := timeout_inv
  values _ _ h _ := by cases h
  prack _ _ h := by cases h
  others _ _ _ h := ⟨h.idle, h.calling⟩

end ImsStack.Txn.SipInviteClientTxn

namespace ImsStack.Txn.SipInviteServerTxn

open SipStack

/-- The states a transaction leaves only when a timer expires. -/
def leavesOnlyByTime : State → Bool
  | .accepted | .completed | .confirmed => true
  | _ => false

/-- What the timer slot holds in each state. -/
def slots : State → List (Option TimerType)
  | .idle | .terminated => [none]
  | .proceeding => [none, some .timerG]
  | .accepted => [some .timerL]
  | .completed => [some .timerG, some .timerH]
  | .confirmed => [some .timerI]

/-- Once the final response is sent, no stored key a PRACK request can match
fetches this transaction any more. -/
def KeysDeleted (key : SipTxnKey) (keys : List SipTxnKey) : Prop :=
  ∀ stored ∈ keys, strcmpEquals stored.method (some methodInvite) →
    key.compareKeys stored = false

structure Answered (s : Stack) : Prop where
  completed : s.txn.txnState = .completed →
    (0 < s.txn.currentDuration ∧ s.txn.currentDuration < 2 ^ 31) ∧ s.txn.maxDuration < 2 ^ 31
  keys : s.txn.txnState ≠ .idle → s.txn.txnState ≠ .proceeding →
    KeysDeleted s.txn.txnKey s.txnKeyList

abbrev Inv := TxnInv fsm .idle slots Answered

variable {immediate : ImmediateTimeout State} {s : Stack} {data : SipTxnFsmData}

theorem strcmpEquals_comm (a b : Option SipChars) : strcmpEquals a b = strcmpEquals b a := by
  cases a <;> cases b <;> simp [strcmpEquals, eq_comm]

theorem stricmpEquals_comm (a b : Option SipChars) : stricmpEquals a b = stricmpEquals b a := by
  cases a <;> cases b <;> simp [stricmpEquals, eq_comm]

theorem keysDeleted_deleteTxnKey (key : SipTxnKey) (keys : List SipTxnKey) :
    KeysDeleted key (deleteTxnKey keys key) := by
  intro stored hstored hinvite
  by_contra hmatch
  simp only [deleteTxnKey, List.mem_filter, Bool.not_eq_true'] at hstored
  have hfetch : key.compareKeys stored = true := by simpa using hmatch
  have hrpr : stored.compareKeysForRPR { key with rules := ⟨false, false, false⟩ } = true := by
    simp only [SipTxnKey.compareKeys, Bool.and_eq_true] at hfetch
    simp only [SipTxnKey.compareKeysForRPR, hinvite, Bool.true_and, Bool.false_and,
      Bool.not_false, Bool.true_or, Bool.and_true, Bool.and_eq_true]
    rw [strcmpEquals_comm stored.callId, stricmpEquals_comm stored.fromTag]
    tauto
  exact absurd (hrpr.symm.trans hstored.2) nofun

theorem inv_setTxnState {slot : Option TimerType} (state : State)
    (hvalues : s.txn.txnTimerValues.InRange) (hslot : slot ∈ slots state) (hs : s.Slot slot)
    (hpool : s.inTxnPool = true) (hkeys : KeysDeleted s.txn.txnKey s.txnKeyList)
    (hcompleted : state = .completed →
      (0 < s.txn.currentDuration ∧ s.txn.currentDuration < 2 ^ 31) ∧
        s.txn.maxDuration < 2 ^ 31) : Inv (s.mapTxn (·.setTxnState state)) :=
  ⟨hvalues, ⟨slot, hslot, hs.congr rfl rfl⟩, fun _ _ => hpool, hcompleted, fun _ _ => hkeys⟩

theorem inv_proceeding {slot : Option TimerType} (hvalues : s.txn.txnTimerValues.InRange)
    (hstate : s.txn.txnState = .proceeding) (hslot : slot = none ∨ slot = some .timerG)
    (hs : s.Slot slot) (hpool : s.inTxnPool = true) : Inv s := by
  refine ⟨hvalues, ⟨slot, ?_, hs⟩, fun _ _ => hpool, ?_, ?_⟩
  · simpa [hstate, slots] using hslot
  · intro hcompleted
    exact absurd (hstate.symm.trans hcompleted) nofun
  · intro _ hne
    exact absurd hstate hne

theorem idleStateReceiveInviteRequest_inv (h : Inv s) (hs : s.Slot none) :
    Inv (idleStateReceiveInviteRequest data s).stack := by
  unfold idleStateReceiveInviteRequest
  cases s.txn.txnKey.copy with
  | none => exact h
  | some newTxnKey =>
      simp only
      split
      · exact h
      · exact inv_proceeding h.values rfl (.inl rfl) (hs.congr rfl rfl) rfl

/-- The stack behind the common beginning of the actions that send a response. -/
theorem stopRetransmission_eq {slot : Option TimerType} (hs : s.Slot slot) :
    stopRetransmission s =
      (s.released.deleteKeys s.txn.txnKey).mapTxn (·.initRetransmissionInfo) := by
  rw [stopRetransmission, hs.stopTxnTimer_eq]
  rfl

theorem slot_stopRetransmission {slot : Option TimerType} (hs : s.Slot slot) :
    (stopRetransmission s).Slot none := by
  rw [stopRetransmission_eq hs]
  exact (slot_released s).congr rfl rfl

theorem proceedingStateSendNon100ProvisionalResponse_inv (h : Inv s)
    (hstate : s.txn.txnState = .proceeding) (hpool : s.inTxnPool = true) :
    Inv (proceedingStateSendNon100ProvisionalResponse immediate data s).stack := by
  obtain ⟨slot, -, hs⟩ := h.slot
  have hs' := slot_stopRetransmission hs
  rw [stopRetransmission_eq hs] at hs'
  have hT1 : 0 < s.txn.getTimerValue .timerT1 := h.timerValue_pos .timerT1
  simp only [proceedingStateSendNon100ProvisionalResponse, stopRetransmission_eq hs]
  split
  · rw [startTxnTimer_of_pos _ _ (by exact hT1)]
    exact inv_proceeding h.values hstate (.inr rfl) (hs'.arm rfl rfl) hpool
  · exact inv_proceeding h.values hstate (.inl rfl) hs' hpool

theorem proceedingStateSendFailureResponse_inv (h : Inv s) (hpool : s.inTxnPool = true) :
    Inv (proceedingStateSendFailureResponse immediate data s).stack := by
  obtain ⟨slot, -, hs⟩ := h.slot
  have hs' := slot_stopRetransmission hs
  rw [stopRetransmission_eq hs] at hs'
  have hT1 := h.values .timerT1
  have hTH := h.values .timerH
  have hkeys := keysDeleted_deleteTxnKey s.txn.txnKey s.txnKeyList
  simp only [proceedingStateSendFailureResponse, stopRetransmission_eq hs]
  split
  · rw [startTxnTimer_of_pos _ _ (by exact hT1.1)]
    exact inv_setTxnState .completed h.values (by simp [slots]) (hs'.arm rfl rfl) hpool hkeys
      fun _ => ⟨hT1, hTH.2⟩
  · rw [startTxnTimer_of_pos _ _ (by exact hTH.1)]
    exact inv_setTxnState .completed h.values (by simp [slots]) (hs'.arm rfl rfl) hpool hkeys
      fun _ => ⟨hTH, hTH.2⟩

theorem proceedingStateSend2xxResponse_inv (h : Inv s) (hpool : s.inTxnPool = true) :
    Inv (proceedingStateSend2xxResponse immediate s).stack := by
  obtain ⟨slot, -, hs⟩ := h.slot
  have hs' := slot_stopRetransmission hs
  rw [stopRetransmission_eq hs] at hs'
  have hTL := h.values .timerL
  have hkeys := keysDeleted_deleteTxnKey s.txn.txnKey s.txnKeyList
  simp only [proceedingStateSend2xxResponse, stopRetransmission_eq hs]
  rw [startTxnTimer_of_pos _ _ (by exact hTL.1)]
  exact inv_setTxnState .accepted h.values (by simp [slots]) (hs'.arm rfl rfl) hpool hkeys nofun

theorem restartTimer_proceeding_inv (s : Stack) {duration : Nat}
    (hvalues : s.txn.txnTimerValues.InRange) (hstate : s.txn.txnState = .proceeding)
    (hs : s.Slot none) (hpool : s.inTxnPool = true) :
    (restartTimer immediate .timerG duration s).ok = true ∧
      Inv (restartTimer immediate .timerG duration s).stack := by
  by_cases hpos : 0 < duration
  · rw [restartTimer_of_pos immediate .timerG hpos]
    exact ⟨rfl, inv_proceeding hvalues hstate (.inr rfl) (hs.arm rfl rfl) hpool⟩
  · rw [restartTimer, if_neg hpos]
    exact ⟨rfl, inv_proceeding hvalues hstate (.inl rfl) hs hpool⟩

/-- The timer G action in the state Proceeding: whatever the duration, timer G is
the only timer it can leave armed. -/
theorem proceedingStateTimerGHTimeout_inv (h : Inv s) (hstate : s.txn.txnState = .proceeding)
    (hpool : s.inTxnPool = true) (timer : TimerType) :
    (proceedingStateTimerGHTimeout immediate timer s.released).ok = true ∧
      Inv (proceedingStateTimerGHTimeout immediate timer s.released).stack := by
  have hs := slot_released s
  simp only [proceedingStateTimerGHTimeout,
    countFirstExpiry_eq (s := s.released) (h.values .timerT1).2]
  split
  · split
    · exact ⟨rfl, inv_proceeding h.values hstate (.inl rfl) (hs.congr rfl rfl) hpool⟩
    · exact restartTimer_proceeding_inv _ h.values hstate (hs.congr rfl rfl) hpool
  · exact ⟨rfl, inv_proceeding h.values hstate (.inl rfl) (hs.congr rfl rfl) hpool⟩

theorem restartTimer_completed_inv (s : Stack) {duration : Nat}
    (hvalues : s.txn.txnTimerValues.InRange) (hstate : s.txn.txnState = .completed)
    (hs : s.Slot none) (hpool : s.inTxnPool = true)
    (hkeys : KeysDeleted s.txn.txnKey s.txnKeyList) (hmax : s.txn.maxDuration < 2 ^ 31)
    (hpos : 0 < duration) (hlt : duration < 2 ^ 31) :
    (restartTimer immediate .timerG duration s).ok = true ∧
      Inv (restartTimer immediate .timerG duration s).stack := by
  rw [restartTimer_of_pos immediate .timerG hpos]
  refine ⟨rfl, hvalues, ⟨some .timerG, ?_, hs.arm rfl rfl⟩, fun _ _ => hpool,
    fun _ => ⟨⟨hpos, hlt⟩, hmax⟩, fun _ _ => hkeys⟩
  change some .timerG ∈ slots s.txn.txnState
  simp [hstate, slots]

/-- The timer G and H action in the state Completed: it starts timer G again for a
positive time, unless it ends the transaction. -/
theorem completedStateTimerGHTimeout_inv (h : Inv s) (hstate : s.txn.txnState = .completed)
    (hpool : s.inTxnPool = true) :
    (completedStateTimerGHTimeout immediate s.released).ok = true ∧
      Inv (completedStateTimerGHTimeout immediate s.released).stack := by
  have hT2 := h.values .timerT2
  have hs := slot_released s
  obtain ⟨⟨hcurrent, hcurrentLt⟩, hmax⟩ := h.data.completed hstate
  have hkeys := h.data.keys (by simp [hstate]) (by simp [hstate])
  simp only [completedStateTimerGHTimeout,
    countFirstExpiry_eq (s := s.released) (h.values .timerT1).2]
  split
  · split
    · exact ⟨rfl, inv_setTxnState .terminated h.values (by simp [slots]) (hs.congr rfl rfl) hpool
        hkeys nofun⟩
    · rename_i hexpired
      obtain ⟨hpos, hlt⟩ := remainingDuration_pos hmax (Nat.lt_of_not_le hexpired)
        (Nat.lt_min.mpr ⟨uint32_double_pos hcurrent hcurrentLt, hT2.1⟩)
        (Nat.lt_of_le_of_lt (Nat.min_le_right _ _) hT2.2)
      exact restartTimer_completed_inv _ h.values hstate (hs.congr rfl rfl) hpool hkeys hmax hpos
        hlt
  · exact ⟨rfl, inv_setTxnState .terminated h.values (by simp [slots]) (hs.congr rfl rfl) hpool
      hkeys nofun⟩

theorem completedStateReceiveAckRequest_inv (h : Inv s) (hstate : s.txn.txnState = .completed)
    (hpool : s.inTxnPool = true) : Inv (completedStateReceiveAckRequest immediate s).stack := by
  obtain ⟨slot, -, hs⟩ := h.slot
  have hTI : 0 < s.released.txn.getTimerValue .timerI := h.timerValue_pos .timerI
  have hkeys := h.data.keys (by simp [hstate]) (by simp [hstate])
  simp only [completedStateReceiveAckRequest, hs.stopTxnTimer_eq, startTxnTimer_of_pos _ _ hTI]
  split
  · exact inv_setTxnState .confirmed h.values (by simp [slots])
      ((slot_released s).arm rfl rfl) hpool hkeys nofun
  · exact inv_setTxnState .terminated h.values (by simp [slots]) (slot_released s) hpool hkeys
      nofun

theorem acceptedStateReceiveAckRequest_inv (h : Inv s) :
    Inv (acceptedStateReceiveAckRequest s).stack := by
  unfold acceptedStateReceiveAckRequest
  split
  · exact h
  · obtain ⟨slot, hslot, hs⟩ := h.slot
    exact ⟨h.values, ⟨slot, hslot, hs.congr rfl rfl⟩, h.pooled, h.data.completed, h.data.keys⟩

theorem invoke_inv (immediate : ImmediateTimeout State) (s : Stack) (event : Event) (h : Inv s)
    (hevent : fsm.isTimeout event = false) :
    Inv (fsm.invoke immediate event s).stack := by
  change Inv (runAction immediate (table s.txn.txnState event) s).stack
  have hpool := h.pooled
  cases event with
  | recvInvReq data =>
      cases hstate : s.txn.txnState with
      | idle =>
          obtain ⟨slot, hslot, hs⟩ := h.slot
          obtain rfl : slot = none := by simpa [hstate, slots] using hslot
          exact idleStateReceiveInviteRequest_inv h hs
      | _ => exact h
  | sendNon100ProvResp data =>
      cases hstate : s.txn.txnState with
      | proceeding =>
          rw [hstate] at hpool
          exact proceedingStateSendNon100ProvisionalResponse_inv h hstate (hpool nofun rfl)
      | _ => exact h
  | sendFailureResp data =>
      cases hstate : s.txn.txnState with
      | proceeding =>
          rw [hstate] at hpool
          exact proceedingStateSendFailureResponse_inv h (hpool nofun rfl)
      | _ => exact h
  | send2xxResp data =>
      cases hstate : s.txn.txnState with
      | proceeding =>
          rw [hstate] at hpool
          exact proceedingStateSend2xxResponse_inv h (hpool nofun rfl)
      | _ => exact h
  | transpError => cases hstate : s.txn.txnState with | _ => exact h
  | recvAckReq data =>
      cases hstate : s.txn.txnState with
      | accepted => exact acceptedStateReceiveAckRequest_inv h
      | completed =>
          rw [hstate] at hpool
          exact completedStateReceiveAckRequest_inv h hstate (hpool nofun rfl)
      | _ => exact h
  | timerGHTimeOut timer => cases hevent
  | timerITimeOut => cases hevent
  | timerLTimeOut => cases hevent

theorem timeout_inv (immediate : ImmediateTimeout State) (s : Stack) (timer : TimerType)
    (event : Event) (h : Inv s) (_ : s.Slot (some timer))
    (hslot : some timer ∈ slots s.txn.txnState) (hevent : fsm.timeoutEvent timer = some event) :
    (fsm.invoke immediate event s.released).ok = true ∧
      Inv (fsm.invoke immediate event s.released).stack := by
  change (runAction immediate (table s.txn.txnState event) s.released).ok = true ∧
    Inv (runAction immediate (table s.txn.txnState event) s.released).stack
  have hpool := h.pooled
  have hkeys := h.data.keys
  cases hstate : s.txn.txnState with
  | proceeding =>
      rw [hstate] at hslot hpool
      obtain rfl : timer = .timerG := by simpa [slots] using hslot
      obtain rfl : .timerGHTimeOut .timerG = event := by simpa [fsm] using hevent
      exact proceedingStateTimerGHTimeout_inv h hstate (hpool nofun rfl) .timerG
  | accepted =>
      rw [hstate] at hslot hpool hkeys
      obtain rfl : timer = .timerL := by simpa [slots] using hslot
      obtain rfl : .timerLTimeOut = event := by simpa [fsm] using hevent
      exact ⟨rfl, inv_setTxnState .terminated h.values (by simp [slots]) (slot_released s)
        (hpool nofun rfl) (hkeys nofun nofun) nofun⟩
  | completed =>
      rw [hstate] at hslot hpool
      obtain ⟨timer', rfl⟩ : ∃ timer', event = .timerGHTimeOut timer' := by
        rcases (by simpa [slots] using hslot : timer = .timerG ∨ timer = .timerH) with rfl | rfl
        · exact ⟨.timerG, by simpa [fsm, eq_comm] using hevent⟩
        · exact ⟨.timerH, by simpa [fsm, eq_comm] using hevent⟩
      exact completedStateTimerGHTimeout_inv h hstate (hpool nofun rfl)
  | confirmed =>
      rw [hstate] at hslot hpool hkeys
      obtain rfl : timer = .timerI := by simpa [slots] using hslot
      obtain rfl : .timerITimeOut = event := by simpa [fsm] using hevent
      exact ⟨rfl, inv_setTxnState .terminated h.values (by simp [slots]) (slot_released s)
        (hpool nofun rfl) (hkeys nofun nofun) nofun⟩
  | _ => simp [hstate, slots] at hslot

/-- A PRACK request stops the timer only while the transaction is still in the
state Proceeding, where it is timer G of a provisional response. -/
theorem prackReceived_inv (s : Stack) (newTxnKey : SipTxnKey) (h : Inv s) :
    Inv (s.prackReceived newTxnKey) := by
  unfold prackReceived
  split
  · exact h
  · rename_i invTxnKey hfound
    split
    · rename_i hfetched
      rw [Bool.and_eq_true] at hfetched
      have hmem : invTxnKey ∈ s.txnKeyList :=
        List.mem_of_mem_take (List.mem_of_find?_eq_some hfound)
      have hinvite : strcmpEquals invTxnKey.method (some methodInvite) = true := by
        have hrpr := List.find?_some hfound
        simp only [SipTxnKey.compareKeysForRPR, Bool.and_eq_true] at hrpr
        exact hrpr.1.1.1.1
      have hstate : s.txn.txnState = .idle ∨ s.txn.txnState = .proceeding := by
        by_contra hne
        rw [not_or] at hne
        have hdeleted := h.data.keys hne.1 hne.2 invTxnKey hmem hinvite
        exact absurd (hdeleted.symm.trans hfetched.2) nofun
      obtain ⟨slot, -, hs⟩ := h.slot
      rw [hs.stopTxnTimer_eq]
      refine ⟨h.values, ⟨none, ?_, (slot_released s).congr rfl rfl⟩, h.pooled, ?_, ?_⟩
      · change none ∈ slots s.txn.txnState
        rcases hstate with hstate | hstate <;> simp [hstate, slots]
      · intro hcompleted
        change s.txn.txnState = .completed at hcompleted
        rcases hstate with hstate | hstate <;> simp [hstate] at hcompleted
      · intro hidle hproceeding
        exact absurd hstate (not_or.mpr ⟨hidle, hproceeding⟩)
    · exact h

theorem timerDiscipline : TimerDiscipline fsm .inviteServer .idle slots Answered
    fun state event => table state event ≠ .handleInvalidStateEvent where
  idle_slot := ⟨List.mem_singleton_self _, rfl⟩
  idle_disarmed timer := by simp [slots]
  terminated_slot state h := by cases state <;> simp_all [fsm, slots]
  slot_handled state timer h := by
    cases state <;> simp [slots] at h
    · subst h
      exact ⟨.timerGHTimeOut .timerG, rfl, nofun⟩
    · subst h
      exact ⟨.timerLTimeOut, rfl, nofun⟩
    · rcases h with rfl | rfl
      · exact ⟨.timerGHTimeOut .timerG, rfl, nofun⟩
      · exact ⟨.timerGHTimeOut .timerH, rfl, nofun⟩
    · subst h
      exact ⟨.timerITimeOut, rfl, nofun⟩
  frame _ _ _ _ h := ⟨h.completed, h.keys⟩
  init _ _ _ _ _ := ⟨nofun, fun hidle => absurd rfl hidle⟩
  invoke := invoke_inv
  timeout := timeout_inv
  values _ _ _ h := ⟨h.data.completed, h.data.keys⟩
  prack s newTxnKey _ h := prackReceived_inv s newTxnKey h
  others s keys hkeys h := by
    refine ⟨h.completed, fun hidle hproceeding stored hstored hinvite => ?_⟩
    rcases hkeys stored hstored with hold | hother
    · exact h.keys hidle hproceeding stored hold hinvite
    · exact hother

end ImsStack.Txn.SipInviteServerTxn
