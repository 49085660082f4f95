import ImsStack.Txn.SipNonInviteClientTxn
import ImsStack.Txn.SipNonInviteServerTxn
import ImsStack.Txn.TimerSlot

/-!
The timers of the two non-INVITE state machines: what the slot holds in each
state, and that every action keeps it so.
-/

namespace ImsStack.Txn.SipNonInviteClientTxn

open SipStack

/-- The states a transaction leaves only when a timer expires. -/
def leavesOnlyByTime : State → Bool
  | .trying | .proceeding | .completed => true
  | _ => false

/-- What the timer slot holds in each state. -/
def slots : State → List (Option TimerType)
  | .idle | .terminated => [none]
  | .trying | .proceeding => [some .timerE, some .timerF]
  | .completed => [some .timerK]

/-- The durations timer E is computed from stay within 31 bits, and the last one
is positive while it is doubled. -/
structure Paced (s : Stack) : Prop where
  current : s.txn.txnState = .trying → 0 < s.txn.currentDuration ∧ s.txn.currentDuration < 2 ^ 31
  max : s.txn.txnState = .trying ∨ s.txn.txnState = .proceeding → s.txn.maxDuration < 2 ^ 31

abbrev Inv := TxnInv fsm .idle slots Paced

variable {immediate : ImmediateTimeout State} {s : Stack} {data : SipTxnFsmData}

theorem inv_terminated (hvalues : s.txn.txnTimerValues.InRange) (hs : s.Slot none)
    (hpool : s.inTxnPool = true) : Inv (s.mapTxn (·.setTxnState .terminated)) where
  values := hvalues
  slot := ⟨none, List.mem_singleton_self _, hs.congr rfl rfl⟩
  pooled _ _ := hpool
  data := ⟨nofun, by simp [mapTxn, SipTxn.setTxnState]⟩

theorem inv_created (s : Stack) (timer : TimerType) (duration : Nat) (hvalues : s.txn.txnTimerValues.InRange)
    (hs : s.Slot none) (hpool : s.inTxnPool = true) (htimer : some timer ∈ slots .trying)
    (hduration : 0 < duration ∧ duration < 2 ^ 31) (keys : List SipTxnKey) :
    Inv { (((s.armed timer duration).mapTxn
        (·.setMaxDuration (s.txn.getTimerValue .timerF))).mapTxn (·.setTxnState .trying)) with
      txnKeyList := keys } where
  values := hvalues
  slot := ⟨_, htimer, hs.arm rfl rfl⟩
  pooled _ _ := hpool
  data := ⟨fun _ => hduration, fun _ => (hvalues .timerF).2⟩

theorem idleStateSendNonInviteRequest_inv (h : Inv s) (hs : s.Slot none) :
    Inv (idleStateSendNonInviteRequest immediate data s).stack := by
  have hT1 : 0 < s.addToTxnPool.txn.getTimerValue .timerT1 := h.timerValue_pos .timerT1
  have hTF : 0 < s.addToTxnPool.txn.getTimerValue .timerF := h.timerValue_pos .timerF
  have hs' : s.addToTxnPool.Slot none := hs.congr rfl rfl
  unfold idleStateSendNonInviteRequest
  cases s.txn.txnKey.copy with
  | none => exact h
  | some newTxnKey =>
      simp only [startTxnTimer_of_pos _ _ hT1, startTxnTimer_of_pos _ _ hTF]
      split
      · exact h
      · by_cases hudp : data.transpProtocol = .udp
        · have hcreated := inv_created s.addToTxnPool .timerE _ h.values hs' rfl
            (by simp [slots]) (h.values .timerT1)
          rw [if_pos hudp]
          split
          · exact hcreated _
          · exact hcreated _
        · have hcreated := inv_created s.addToTxnPool .timerF _ h.values hs' rfl
            (by simp [slots]) (h.values .timerF)
          rw [if_neg hudp]
          split
          · exact hcreated _
          · exact hcreated _

theorem restartTimer_inv (s : Stack) {duration : Nat} (hvalues : s.txn.txnTimerValues.InRange)
    (hs : s.Slot none) (hpool : s.inTxnPool = true)
    (hstate : s.txn.txnState = .trying ∨ s.txn.txnState = .proceeding)
    (hmax : s.txn.maxDuration < 2 ^ 31) (hpos : 0 < duration) (hlt : duration < 2 ^ 31) :
    (restartTimer immediate .timerE duration s).ok = true ∧
      Inv (restartTimer immediate .timerE duration s).stack := by
  rw [restartTimer_of_pos immediate .timerE hpos]
  refine ⟨rfl, hvalues, ⟨some .timerE, ?_, hs.arm rfl rfl⟩, fun _ _ => hpool, fun _ => ⟨hpos, hlt⟩,
    fun _ => hmax⟩
  change some .timerE ∈ slots s.txn.txnState
  rcases hstate with hstate | hstate <;> simp [hstate, slots]

/-- The timer E action in the states Trying and Proceeding: it starts timer E
again for a positive time, unless it ends the transaction. -/
theorem handleTimeout_inv (h : Inv s)
    (hstate : s.txn.txnState = .trying ∨ s.txn.txnState = .proceeding) :
    (handleTimeout immediate s.released).ok = true ∧
      Inv (handleTimeout immediate s.released).stack := by
  have hpool : s.inTxnPool = true := by
    rcases hstate with hstate | hstate <;> exact h.pooled (by simp [hstate]) (by simp [hstate, fsm])
  have hT2 := h.values .timerT2
  have hmax := h.data.max hstate
  have hcount := countFirstExpiry_eq (s := s.released) (h.values .timerT1).2
  have hs := slot_released s
  simp only [handleTimeout, hcount]
  split
  · split
    · exact ⟨rfl, inv_terminated h.values (hs.congr rfl rfl) hpool⟩
    · rename_i hexpired
      have hduration : 0 < (if s.txn.txnState = .trying then
            min (uint32 (s.txn.currentDuration * 2)) (s.txn.getTimerValue .timerT2)
          else s.txn.getTimerValue .timerT2) ∧ (if s.txn.txnState = .trying then
            min (uint32 (s.txn.currentDuration * 2)) (s.txn.getTimerValue .timerT2)
          else s.txn.getTimerValue .timerT2) < 2 ^ 31 := by
        split
        · rename_i htrying
          obtain ⟨hpos, hlt⟩ := h.data.current htrying
          exact ⟨Nat.lt_min.mpr ⟨uint32_double_pos hpos hlt, hT2.1⟩,
            Nat.lt_of_le_of_lt (Nat.min_le_right _ _) hT2.2⟩
        · exact hT2
      obtain ⟨hpos, hlt⟩ := remainingDuration_pos hmax (Nat.lt_of_not_le hexpired) hduration.1
        hduration.2
      exact restartTimer_inv _ h.values (hs.congr rfl rfl) hpool hstate hmax hpos hlt
  · exact ⟨rfl, inv_terminated h.values (hs.congr rfl rfl) hpool⟩

theorem handleFinalResponse_inv (h : Inv s) (hpool : s.inTxnPool = true) :
    Inv (handleFinalResponse immediate s).stack := by
  obtain ⟨slot, -, hs⟩ := h.slot
  have hTK : 0 < s.released.txn.getTimerValue .timerK := h.timerValue_pos .timerK
  simp only [handleFinalResponse, hs.stopTxnTimer_eq, startTxnTimer_of_pos _ _ hTK]
  split
  · exact ⟨h.values, ⟨_, List.mem_singleton_self _, (slot_released s).arm rfl rfl⟩,
      fun _ _ => hpool, nofun, by simp [mapTxn, SipTxn.setTxnState]⟩
  · exact inv_terminated h.values (slot_released s) hpool

theorem transportError_inv (h : Inv s) (hpool : s.inTxnPool = true) :
    Inv (s.stopTxnTimer.mapTxn (·.setTxnState .terminated)) := by
  obtain ⟨slot, -, hs⟩ := h.slot
  rw [hs.stopTxnTimer_eq]
  exact inv_terminated h.values (slot_released s) hpool

theorem tryingStateReceive1xxResponse_inv (h : Inv s) (hstate : s.txn.txnState = .trying) :
    Inv (tryingStateReceive1xxResponse s).stack := by
  obtain ⟨slot, hslot, hs⟩ := h.slot
  rw [hstate] at hslot
  exact ⟨h.values, ⟨slot, hslot, hs.congr rfl rfl⟩,
    fun _ _ => h.pooled (by simp [hstate]) (by simp [hstate, fsm]), nofun,
    fun _ => h.data.max (.inl hstate)⟩

theorem invoke_inv (immediate : ImmediateTimeout State) (s : Stack) (event : Event) (h : Inv s)
    (hevent : fsm.isTimeout event = false) :
    Inv (fsm.invoke immediate event s).stack := by
  change Inv (runAction immediate (table s.txn.txnState event) s).stack
  have hpool := h.pooled
  cases event with
  | sendNonInvReq data =>
      cases hstate : s.txn.txnState with
      | idle =>
          obtain ⟨slot, hslot, hs⟩ := h.slot
          obtain rfl : slot = none := by simpa [hstate, slots] using hslot
          exact idleStateSendNonInviteRequest_inv h hs
      | _ => exact h
  | recv1xxResp data =>
      cases hstate : s.txn.txnState with
      | trying => exact tryingStateReceive1xxResponse_inv h hstate
      | _ => exact h
  | recvFinalResp data =>
      cases hstate : s.txn.txnState with
      | trying | proceeding =>
          rw [hstate] at hpool
          exact handleFinalResponse_inv h (hpool nofun rfl)
      | _ => exact h
  | transpError =>
      cases hstate : s.txn.txnState with
      | trying | proceeding | completed =>
          rw [hstate] at hpool
          exact transportError_inv h (hpool nofun rfl)
      | _ => exact h
  | timerEFTimeOut => cases hevent
  | timerKTimeOut => cases hevent

theorem timeout_inv (immediate : ImmediateTimeout State) (s : Stack) (timer : TimerType)
    (event : Event) (h : Inv s) (_ : s.Slot (some timer))
    (hslot : some timer ∈ slots s.txn.txnState) (hevent : fsm.timeoutEvent timer = some event) :
    (fsm.invoke immediate event s.released).ok = true ∧
      Inv (fsm.invoke immediate event s.released).stack := by
  change (runAction immediate (table s.txn.txnState event) s.released).ok = true ∧
    Inv (runAction immediate (table s.txn.txnState event) s.released).stack
  have hpool := h.pooled
  cases hstate : s.txn.txnState with
  | trying =>
      rw [hstate] at hslot
      obtain rfl : .timerEFTimeOut = event := by
        rcases (by simpa [slots] using hslot : timer = .timerE ∨ timer = .timerF) with rfl | rfl
          <;> simpa [fsm] using hevent
      exact handleTimeout_inv h (.inl hstate)
  | proceeding =>
      rw [hstate] at hslot
      obtain rfl : .timerEFTimeOut = event := by
        rcases (by simpa [slots] using hslot : timer = .timerE ∨ timer = .timerF) with rfl | rfl
          <;> simpa [fsm] using hevent
      exact handleTimeout_inv h (.inr hstate)
  | completed =>
      rw [hstate] at hslot hpool
      obtain rfl : timer = .timerK := by simpa [slots] using hslot
      obtain rfl : .timerKTimeOut = event := by simpa [fsm] using hevent
      exact ⟨rfl, inv_terminated h.values (slot_released s) (hpool nofun rfl)⟩
  | _ => simp [hstate, slots] at hslot

theorem timerDiscipline : TimerDiscipline fsm .nonInviteClient .idle slots Paced
    fun state event => table state event ≠ .handleInvalidStateEvent where
  idle_slot := ⟨List.mem_singleton_self _, rfl⟩
  idle_disarmed timer := by simp [slots]
  terminated_slot state h := by cases state <;> simp_all [fsm, slots]
  slot_handled state timer h := by
    cases state <;> simp [slots] at h
    · rcases h with rfl | rfl <;> exact ⟨.timerEFTimeOut, rfl, nofun⟩
    · rcases h with rfl | rfl <;> exact ⟨.timerEFTimeOut, rfl, nofun⟩
    · subst h
      exact ⟨.timerKTimeOut, rfl, nofun⟩
  frame _ _ _ _ h := ⟨h.current, h.max⟩
  init _ _ _ _ _ := ⟨nofun, by simp [newStack, newTxn]⟩
  invoke := invoke_inv
  timeout := timeout_inv
  values _ _ h _ := by cases h
  prack _ _ h := by cases h
  others _ _ _ h := ⟨h.current, h.max⟩

end ImsStack.Txn.SipNonInviteClientTxn

namespace ImsStack.Txn.SipNonInviteServerTxn

open SipStack

/-- The states a transaction leaves only when a timer expires. -/
def leavesOnlyByTime : State → Bool
  | .completed => true
  | _ => false

/-- What the timer slot holds in each state. -/
def slots : State → List (Option TimerType)
  | .idle | .trying | .proceeding | .terminated => [none]
  | .completed => [some .timerJ]

abbrev Inv := TxnInv fsm .idle slots fun _ => True

variable {immediate : ImmediateTimeout State} {s : Stack} {data : SipTxnFsmData}

theorem slot_none (h : Inv s) (hstate : s.txn.txnState ≠ .completed) : s.Slot none := by
  obtain ⟨slot, hslot, hs⟩ := h.slot
  cases hs' : s.txn.txnState <;> simp_all [slots]

theorem inv_setTxnState {state : State} (h : Inv s) (hs : s.Slot none)
    (hpool : s.inTxnPool = true) (hslot : none ∈ slots state) :
    Inv (s.mapTxn (·.setTxnState state)) :=
  ⟨h.values, ⟨none, hslot, hs.congr rfl rfl⟩, fun _ _ => hpool, trivial⟩

theorem sendFinalResponse_inv (h : Inv s) (hs : s.Slot none) (hpool : s.inTxnPool = true) :
    Inv (sendFinalResponse immediate data s).stack := by
  have hTJ := h.timerValue_pos .timerJ
  unfold sendFinalResponse
  split
  · simp only [startTxnTimer_of_pos immediate _ hTJ]
    exact ⟨h.values, ⟨_, List.mem_singleton_self _, hs.arm rfl rfl⟩,
      fun _ _ => hpool, trivial⟩
  · exact inv_setTxnState h hs hpool (List.mem_singleton_self _)

theorem idleStateReceiveNonInviteRequest_inv (h : Inv s) (hs : s.Slot none) :
    Inv (idleStateReceiveNonInviteRequest data s).stack := by
  have hcreated (keys : List SipTxnKey) :
      Inv { s.addToTxnPool.mapTxn (·.setTxnState .trying) with
        txnKeyList := keys } :=
    ⟨h.values, ⟨none, List.mem_singleton_self _, hs.congr rfl rfl⟩, fun _ _ => rfl, trivial⟩
  unfold idleStateReceiveNonInviteRequest
  cases s.txn.txnKey.copy with
  | none => exact h
  | some newTxnKey =>
    simp only
    split
    · exact h
    · cases data.sipMsgIn.prackRAck with
      | none => exact hcreated _
      | some nRseqNum =>
        simp only
        split
        · split
          · exact hcreated _
          · exact hcreated _
        · exact hcreated _

theorem completedStateTransportError_inv (h : Inv s) (hpool : s.inTxnPool = true) :
    Inv (completedStateTransportError s).stack := by
  obtain ⟨slot, -, hs⟩ := h.slot
  simp only [completedStateTransportError, hs.stopTxnTimer_eq]
  exact ⟨h.values, ⟨none, List.mem_singleton_self _, (slot_released s).congr rfl rfl⟩,
    fun _ _ => hpool, trivial⟩

theorem invoke_inv (immediate : ImmediateTimeout State) (s : Stack) (event : Event) (h : Inv s)
    (hevent : fsm.isTimeout event = false) :
    Inv (fsm.invoke immediate event s).stack := by
  change Inv (runAction immediate (table s.txn.txnState event) s).stack
  have hslot := slot_none h
  have hpool := h.pooled
  cases event with
  | recvNonInvReq data =>
      cases hstate : s.txn.txnState with
      | idle => exact idleStateReceiveNonInviteRequest_inv h (hslot (by simp [hstate]))
      | _ => exact h
  | send1xxResp data =>
      cases hstate : s.txn.txnState with
      | trying =>
          rw [hstate] at hslot hpool
          exact inv_setTxnState h (hslot nofun) (hpool nofun rfl) (List.mem_singleton_self _)
      | _ => exact h
  | sendFinalResp data =>
      cases hstate : s.txn.txnState with
      | trying | proceeding =>
          rw [hstate] at hslot hpool
          exact sendFinalResponse_inv h (hslot nofun) (hpool nofun rfl)
      | _ => exact h
  | transpError =>
      cases hstate : s.txn.txnState with
      | trying | proceeding =>
          rw [hstate] at hslot hpool
          exact inv_setTxnState h (hslot nofun) (hpool nofun rfl) (List.mem_singleton_self _)
      | completed =>
          rw [hstate] at hpool
          exact completedStateTransportError_inv h (hpool nofun rfl)
      | _ => exact h
  | timerJTimeOut => cases hevent

theorem timeout_inv (immediate : ImmediateTimeout State) (s : Stack) (timer : TimerType)
    (event : Event) (h : Inv s) (_ : s.Slot (some timer))
    (hslot : some timer ∈ slots s.txn.txnState) (hevent : fsm.timeoutEvent timer = some event) :
    (fsm.invoke immediate event s.released).ok = true ∧
      Inv (fsm.invoke immediate event s.released).stack := by
  change (runAction immediate (table s.txn.txnState event) s.released).ok = true ∧
    Inv (runAction immediate (table s.txn.txnState event) s.released).stack
  have hpool := h.pooled
  cases hstate : s.txn.txnState with
  | completed =>
      rw [hstate] at hslot hpool
      obtain rfl : timer = .timerJ := by simpa [slots] using hslot
      obtain rfl : .timerJTimeOut = event := by simpa [fsm] using hevent
      exact ⟨rfl, h.values, ⟨none, List.mem_singleton_self _, (slot_released s).congr rfl rfl⟩,
        fun _ _ => hpool nofun rfl, trivial⟩
  | _ => simp [hstate, slots] at hslot

theorem timerDiscipline : TimerDiscipline fsm .nonInviteServer .idle slots (fun _ => True)
    fun state event => table state event ≠ .handleInvalidStateEvent where
  idle_slot := ⟨List.mem_singleton_self _, rfl⟩
  idle_disarmed timer := by simp [slots]
  terminated_slot state h := by cases state <;> simp_all [fsm, slots]
  slot_handled state timer h := by
    cases state <;> simp [slots] at h
    subst h
    exact ⟨.timerJTimeOut, rfl, nofun⟩
  frame _ _ _ _ _ := trivial
  init _ _ _ _ _ := trivial
  invoke := invoke_inv
  timeout := timeout_inv
  values _ _ _ _ := trivial
  prack _ _ h := by cases h
  others _ _ _ _ := trivial

end ImsStack.Txn.SipNonInviteServerTxn
