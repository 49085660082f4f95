import ImsStack.Txn.TxnRun

/-!
The timer slot of a transaction and the timers the platform runs for it.  The
module states the invariant that ties the two together, with a table of what the
slot may hold in each state, and shows once for every state machine that runs
keep it when the actions of the machine do.
-/

namespace ImsStack.Txn

open TransitionSystem

namespace SipStack

variable {σ : Type} {s s' : SipStack σ}

/-- The slot is empty and the platform runs no timer, or the slot names the one
timer the platform runs. -/
def Slot (s : SipStack σ) : Option TimerType → Prop
  | none => s.txn.timerId = none ∧ s.runningTimers = []
  | some timer => ∃ id, s.txn.timerId = some id ∧ s.runningTimers = [⟨id, timer⟩]

/-- The stack with the slot emptied and no timer running. -/
def released (s : SipStack σ) : SipStack σ :=
  { s with txn := { s.txn with timerId := none }, runningTimers := [] }

/-- The stack with a new timer in the slot. -/
def armed (timer : TimerType) (duration : Nat) (s : SipStack σ) : SipStack σ :=
  { s with
    txn := { s.txn with
      timerId := some s.nextTimerId
      timerType := timer
      currentDuration := duration }
    runningTimers := s.runningTimers ++ [⟨s.nextTimerId, timer⟩]
    nextTimerId := s.nextTimerId + 1 }

theorem Slot.congr {slot : Option TimerType} (h : s.Slot slot)
    (hid : s'.txn.timerId = s.txn.timerId) (htimers : s'.runningTimers = s.runningTimers) :
    s'.Slot slot := by
  cases slot with
  | none => exact ⟨hid.trans h.1, htimers.trans h.2⟩
  | some timer =>
      obtain ⟨id, hsid, hstimers⟩ := h
      exact ⟨id, hid.trans hsid, htimers.trans hstimers⟩

theorem slot_released (s : SipStack σ) : s.released.Slot none := ⟨rfl, rfl⟩

theorem Slot.arm {timer : TimerType} (h : s.Slot none)
    (hid : s'.txn.timerId = some s.nextTimerId)
    (htimers : s'.runningTimers = s.runningTimers ++ [⟨s.nextTimerId, timer⟩]) :
    s'.Slot (some timer) := by
  refine ⟨s.nextTimerId, hid, ?_⟩
  rw [htimers, h.2, List.nil_append]

theorem startTxnTimer_of_pos (immediate : ImmediateTimeout σ) (timer : TimerType)
    {duration : Nat} (h : 0 < duration) (s : SipStack σ) :
    s.startTxnTimer immediate timer duration = s.armed timer duration := by
  simp only [startTxnTimer, if_pos h, armed]

theorem Slot.stopTxnTimer_eq {slot : Option TimerType} (h : s.Slot slot) :
    s.stopTxnTimer = s.released := by
  cases slot with
  | none =>
      obtain ⟨hid, htimers⟩ := h
      simp only [stopTxnTimer, hid, released]
      rw [← htimers, ← hid]
  | some timer =>
      obtain ⟨id, hid, htimers⟩ := h
      simp [stopTxnTimer, hid, released, htimers]

theorem countFirstExpiry_eq (hT1 : s.txn.getTimerValue .timerT1 < 2 ^ 31) :
    s.countFirstExpiry =
      s.mapTxn fun txn => { txn with durationExpired := s.firstDurationExpired } := by
  unfold countFirstExpiry firstDurationExpired
  split
  · rename_i hzero
    have hsum : uint32 (s.txn.durationExpired + s.txn.getTimerValue .timerT1) =
        s.txn.getTimerValue .timerT1 := by
      simp only [uint32]
      omega
    simp only [mapTxn, SipTxn.increaseDurationExpired, hsum]
  · rfl

theorem dropTimer_increment {timer : TimerType} {id : Nat}
    (htimers : s.runningTimers = [⟨id, timer⟩]) :
    ((s.dropTimer ⟨id, timer⟩).increment.mapTxn fun txn => { txn with timerId := none }) =
      s.increment.released := by
  simp [dropTimer, increment, mapTxn, released, htimers]

end SipStack

/-- A retransmission timer started again for a positive time goes to the
platform. -/
theorem restartTimer_of_pos {σ : Type} (immediate : ImmediateTimeout σ) (timer : TimerType)
    {duration : Nat} (h : 0 < duration) (s : SipStack σ) :
    restartTimer immediate timer duration s =
      { ok := true
        stack := (s.armed timer duration).mapTxn fun txn =>
          ((txn.increaseTxnCount).increaseDurationExpired duration).setCurrentDuration
            duration } := by
  simp only [restartTimer, if_pos h, SipStack.startTxnTimer_of_pos immediate timer h]

/-- The callback of a timer whose id is in the slot runs the action of the
timer's event. -/
theorem cbkTxnTimeout_of_slot {σ ε : Type} {fsm : TxnFsm σ ε} {timer : TimerType}
    {timerId : Option Nat} {event : ε} (immediate : ImmediateTimeout σ) (s : SipStack σ)
    (hpool : s.inTxnPool = true) (hid : s.txn.timerId = timerId)
    (hlive : fsm.isTerminated s.txn.txnState = false)
    (hevent : fsm.timeoutEvent timer = some event) :
    cbkTxnTimeout fsm immediate timer timerId s =
      let result := fsm.invoke immediate event
        (s.increment.mapTxn fun txn => { txn with timerId := none })
      if !result.ok then (result.stack.sipDelete, .invokeFsmFailed)
      else if fsm.isTerminated result.stack.txn.txnState then
        (result.stack.removeFromTxnPool.sipDelete, .notified)
      else if result.stack.txn.rprTxnTerminated then (result.stack, .notified)
      else (result.stack.sipDelete, .retransmitted) := by
  have hid' : ¬ timerId ≠ s.increment.txn.timerId := fun h => h hid.symm
  have hlive' : ¬ fsm.isTerminated
      (s.increment.mapTxn fun txn => { txn with timerId := none }).txn.txnState = true :=
    fun h => absurd (hlive.symm.trans h) Bool.false_ne_true
  rw [cbkTxnTimeout, if_neg (by simp [hpool])]
  simp only [if_neg hid', if_neg hlive', hevent]

/-- What a state machine keeps true: the timer values are in range, the slot
holds what the table `slots` allows in the current state, a transaction between
its first and its last state is in the pool, and a condition of the machine's
own holds. -/
structure TxnInv {σ ε : Type} (fsm : TxnFsm σ ε) (idle : σ)
    (slots : σ → List (Option TimerType)) (P : SipStack σ → Prop) (s : SipStack σ) : Prop where
  values : s.txn.txnTimerValues.InRange
  slot : ∃ slot ∈ slots s.txn.txnState, s.Slot slot
  pooled : s.txn.txnState ≠ idle → fsm.isTerminated s.txn.txnState = false →
    s.inTxnPool = true
  data : P s

theorem TxnInv.timerValue_pos {σ ε : Type} {fsm : TxnFsm σ ε} {idle : σ}
    {slots : σ → List (Option TimerType)} {P : SipStack σ → Prop} {s : SipStack σ}
    (h : TxnInv fsm idle slots P s) (timer : TimerType) : 0 < s.txn.getTimerValue timer :=
  (h.values timer).1

/-- What has to be shown of a state machine for its runs to keep `TxnInv`: the
tables fit, the machine's own condition reads nothing the callbacks write, and
the actions keep the invariant. -/
structure TimerDiscipline {σ ε : Type} (fsm : TxnFsm σ ε) (txnType : TxnType) (idle : σ)
    (slots : σ → List (Option TimerType)) (P : SipStack σ → Prop)
    (hasAction : σ → ε → Prop) : Prop where
  idle_slot : none ∈ slots idle ∧ fsm.isTerminated idle = false
  idle_disarmed : ∀ timer, some timer ∉ slots idle
  terminated_slot : ∀ state, fsm.isTerminated state → slots state = [none]
  slot_handled : ∀ state timer, some timer ∈ slots state →
    ∃ event, fsm.timeoutEvent timer = some event ∧ hasAction state event
  frame : ∀ (s : SipStack σ) refCount inTxnPool transpInfo, P s →
    P { s with
      txn := { s.txn with refCount := refCount, transpInfo := transpInfo }
      inTxnPool := inTxnPool }
  init : ∀ key values keys nextTimerId, SipTimerValues.Positive values →
    P (newStack (newTxn idle key values.toTxnTimerValues) keys nextTimerId)
  invoke : ∀ immediate s event, TxnInv fsm idle slots P s →
    fsm.isTimeout event = false →
    TxnInv fsm idle slots P (fsm.invoke immediate event s).stack
  timeout : ∀ immediate s timer event, TxnInv fsm idle slots P s →
    s.Slot (some timer) → some timer ∈ slots s.txn.txnState →
    fsm.timeoutEvent timer = some event →
    (fsm.invoke immediate event s.released).ok = true ∧
      TxnInv fsm idle slots P (fsm.invoke immediate event s.released).stack
  values : ∀ s values, txnType.isServer → TxnInv fsm idle slots P s →
    P (s.mapTxn fun txn => { txn with txnTimerValues := values })
  prack : ∀ s newTxnKey, txnType = .inviteServer → TxnInv fsm idle slots P s →
    TxnInv fsm idle slots P (s.prackReceived newTxnKey)
  others : ∀ s keys,
    (∀ key ∈ keys, key ∈ s.txnKeyList ∨ s.txn.txnKey.compareKeys key = false) →
    P s → P { s with txnKeyList := keys }

/-- The duration a timer is started again with: it does not go beyond the
maximum, and it is positive as long as the maximum is not reached. -/
theorem remainingDuration_pos {maxDuration expired duration : Nat}
    (hmax : maxDuration < 2 ^ 31) (hexpired : expired < maxDuration) (hpos : 0 < duration)
    (hlt : duration < 2 ^ 31) :
    0 < (if maxDuration ≤ uint32 (expired + duration) then maxDuration - expired
        else duration) ∧
      (if maxDuration ≤ uint32 (expired + duration) then maxDuration - expired
        else duration) < 2 ^ 31 := by
  split <;> omega

theorem uint32_double_pos {duration : Nat} (hpos : 0 < duration) (hlt : duration < 2 ^ 31) :
    0 < uint32 (duration * 2) := by
  simp only [uint32]
  omega

namespace TimerDiscipline

variable {σ ε : Type} {fsm : TxnFsm σ ε} {txnType : TxnType} {idle : σ}
  {slots : σ → List (Option TimerType)} {P : SipStack σ → Prop} {hasAction : σ → ε → Prop}
  {s : SipStack σ}

theorem inv_frame (d : TimerDiscipline fsm txnType idle slots P hasAction)
    (h : TxnInv fsm idle slots P s) (refCount : Int) (transpInfo : Option TranspProtocol) :
    TxnInv fsm idle slots P
      { s with txn := { s.txn with refCount := refCount, transpInfo := transpInfo } } where
  values := h.values
  slot := by
    obtain ⟨slot, hslot, hs⟩ := h.slot
    exact ⟨slot, hslot, hs.congr rfl rfl⟩
  pooled := h.pooled
  data := d.frame s refCount s.inTxnPool transpInfo h.data

theorem inv_increment (d : TimerDiscipline fsm txnType idle slots P hasAction)
    (h : TxnInv fsm idle slots P s) : TxnInv fsm idle slots P s.increment :=
  d.inv_frame h (s.txn.refCount + 1) s.txn.transpInfo

theorem inv_sipDelete (d : TimerDiscipline fsm txnType idle slots P hasAction)
    (h : TxnInv fsm idle slots P s) : TxnInv fsm idle slots P s.sipDelete :=
  d.inv_frame h (s.txn.refCount - 1) s.txn.transpInfo

theorem inv_removeFromTxnPool (d : TimerDiscipline fsm txnType idle slots P hasAction)
    (h : TxnInv fsm idle slots P s) (hterm : fsm.isTerminated s.txn.txnState) :
    TxnInv fsm idle slots P s.removeFromTxnPool := by
  unfold SipStack.removeFromTxnPool
  split
  · refine ⟨h.values, ?_, ?_, ?_⟩
    · obtain ⟨slot, hslot, hs⟩ := h.slot
      exact ⟨slot, hslot, hs.congr rfl rfl⟩
    · intro _ hlive
      exact absurd hterm (by simp only [hlive]; exact Bool.false_ne_true)
    · exact d.frame s (s.txn.refCount - poolReferences) false s.txn.transpInfo h.data
  · exact h

theorem pooled_of_armed (d : TimerDiscipline fsm txnType idle slots P hasAction)
    (h : TxnInv fsm idle slots P s) {timer : TimerType}
    (hslot : some timer ∈ slots s.txn.txnState) :
    fsm.isTerminated s.txn.txnState = false ∧ s.inTxnPool = true := by
  have hlive : fsm.isTerminated s.txn.txnState = false := by
    by_contra hterm
    have hslots := d.terminated_slot _ (Bool.not_eq_false _ ▸ hterm)
    rw [hslots] at hslot
    simp at hslot
  refine ⟨hlive, h.pooled ?_ hlive⟩
  intro hidle
  exact d.idle_disarmed timer (hidle ▸ hslot)

/-- The expiry of the running timer runs the action of its event on the released
slot. -/
theorem expire_eq (d : TimerDiscipline fsm txnType idle slots P hasAction)
    (h : TxnInv fsm idle slots P s) {timer : RunningTimer} (hmem : timer ∈ s.runningTimers) :
    some timer.timerType ∈ slots s.txn.txnState ∧ s.Slot (some timer.timerType) ∧
      ∃ event, fsm.timeoutEvent timer.timerType = some event ∧
        fsm.expire timer s =
          let result := fsm.invoke
            (fun timer s => (cbkTxnTimeout fsm (fun _ s => s) timer none s).1) event
            s.increment.released
          if !result.ok then (result.stack.sipDelete, .invokeFsmFailed)
          else if fsm.isTerminated result.stack.txn.txnState then
            (result.stack.removeFromTxnPool.sipDelete, .notified)
          else if result.stack.txn.rprTxnTerminated then (result.stack, .notified)
          else (result.stack.sipDelete, .retransmitted) := by
  obtain ⟨slot, hslot, hs⟩ := h.slot
  cases slot with
  | none =>
      rw [hs.2] at hmem
      exact absurd hmem List.not_mem_nil
  | some timerType =>
      obtain ⟨id, hid, htimers⟩ := hs
      have htimer : timer = ⟨id, timerType⟩ := by simpa [htimers] using hmem
      subst htimer
      obtain ⟨hlive, hpool⟩ := d.pooled_of_armed h hslot
      obtain ⟨event, hevent, -⟩ := d.slot_handled _ _ hslot
      refine ⟨hslot, ⟨id, hid, htimers⟩, event, hevent, ?_⟩
      have hexpire := cbkTxnTimeout_of_slot
        (fun timer s => (cbkTxnTimeout fsm (fun _ s => s) timer none s).1)
        (s.dropTimer ⟨id, timerType⟩) hpool hid hlive hevent
      rw [SipStack.dropTimer_increment htimers] at hexpire
      exact hexpire

/-- The expiry of the running timer reaches its action, and the invariant is
kept. -/
theorem expire_spec (d : TimerDiscipline fsm txnType idle slots P hasAction)
    (h : TxnInv fsm idle slots P s) {timer : RunningTimer} (hmem : timer ∈ s.runningTimers) :
    TxnInv fsm idle slots P (fsm.expire timer s).1 ∧
      ((fsm.expire timer s).2 = .notified ∨ (fsm.expire timer s).2 = .retransmitted) ∧
      some timer.timerType ∈ slots s.txn.txnState := by
  obtain ⟨hslot, hs, event, hevent, hexpire⟩ := d.expire_eq h hmem
  obtain ⟨hok, hinv⟩ := d.timeout
    (fun timer s => (cbkTxnTimeout fsm (fun _ s => s) timer none s).1)
    s.increment timer.timerType event (d.inv_increment h) (hs.congr rfl rfl) hslot hevent
  rw [hexpire]
  simp only [hok, Bool.not_true, Bool.false_eq_true, ↓reduceIte]
  split
  · rename_i hterm
    exact ⟨d.inv_sipDelete (d.inv_removeFromTxnPool hinv hterm), .inl rfl, hslot⟩
  · split
    · exact ⟨hinv, .inl rfl, hslot⟩
    · exact ⟨d.inv_sipDelete hinv, .inr rfl, hslot⟩

theorem inv_init (d : TimerDiscipline fsm txnType idle slots P hasAction) (s : SipStack σ)
    (h : (txnSystem fsm txnType idle).Init s) : TxnInv fsm idle slots P s := by
  obtain ⟨key, values, keys, nextTimerId, hpos, rfl⟩ := h
  exact {
    values := hpos.inRange
    slot := ⟨none, d.idle_slot.1, rfl, rfl⟩
    pooled := fun hidle => absurd rfl hidle
    data := d.init key values keys nextTimerId hpos }

theorem updateSipTimers_inRange {old new : SipTxnTimerValues} (hold : old.InRange)
    (hnew : new.InRange) (options : TimerType → Bool) :
    (old.updateSipTimers ⟨options, new⟩).InRange := by
  intro timer
  simp only [SipTxnTimerValues.updateSipTimers]
  split
  · exact hnew timer
  · exact hold timer

theorem inv_step (d : TimerDiscipline fsm txnType idle slots P hasAction) (s : SipStack σ)
    (e : RunEvent ε) (s' : SipStack σ) (h : TxnInv fsm idle slots P s)
    (hstep : (txnSystem fsm txnType idle).Step s e s') : TxnInv fsm idle slots P s' := by
  cases hstep with
  | invokeFsm event hevent => exact d.invoke _ s event h hevent
  | timerExpired timer hmem => exact (d.expire_spec h hmem).1
  | msgSent transpInfo => exact d.inv_frame h s.txn.refCount transpInfo
  | updateSipTimers options values hserver hpos =>
      obtain ⟨slot, hslot, hs⟩ := h.slot
      exact {
        values := updateSipTimers_inRange h.values hpos.inRange options
        slot := ⟨slot, hslot, hs.congr rfl rfl⟩
        pooled := h.pooled
        data := d.values s _ hserver h }
  | prackReceived newTxnKey hserver => exact d.prack s newTxnKey hserver h
  | otherTxns keys hkeys =>
      obtain ⟨slot, hslot, hs⟩ := h.slot
      exact {
        values := h.values
        slot := ⟨slot, hslot, hs.congr rfl rfl⟩
        pooled := h.pooled
        data := d.others s keys hkeys h.data }
  | removeTxn hterm => exact d.inv_removeFromTxnPool h hterm

theorem inv_of_reachable (d : TimerDiscipline fsm txnType idle slots P hasAction)
    (hs : (txnSystem fsm txnType idle).Reachable s) : TxnInv fsm idle slots P s :=
  hs.invariant d.inv_init d.inv_step

/-- A state the table never leaves without a timer always has its one timer
armed, and every armed timer is handled. -/
theorem timerCovered_of_reachable
    (d : TimerDiscipline fsm txnType idle slots P hasAction) {leavesOnlyByTime : σ → Bool}
    (htime : ∀ state, leavesOnlyByTime state → none ∉ slots state)
    (hs : (txnSystem fsm txnType idle).Reachable s) :
    TimerCovered fsm leavesOnlyByTime hasAction s := by
  have hinv := d.inv_of_reachable hs
  refine ⟨?_, ?_⟩
  · intro hstate
    obtain ⟨slot, hslot, hslotted⟩ := hinv.slot
    cases slot with
    | none => exact absurd hslot (htime _ hstate)
    | some timer =>
        obtain ⟨id, hid, htimers⟩ := hslotted
        exact ⟨⟨id, timer⟩, htimers, hid⟩
  · intro timer hmem
    obtain ⟨-, houtcome, hslot⟩ := d.expire_spec hinv hmem
    exact ⟨d.slot_handled _ _ hslot, houtcome⟩

end TimerDiscipline

end ImsStack.Txn
