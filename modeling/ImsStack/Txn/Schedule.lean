import ImsStack.Library.Backoff
import ImsStack.Txn.Retransmission

/-!
The retransmission schedule: what a transaction does when nothing happens after its
message has been sent over UDP but that its timers expire.
-/

namespace ImsStack.Txn

open Backoff

variable {σ ε : Type}

/-- The runs of expiries from a stack on, with the durations of the timers that have
expired. -/
inductive Expiries (fsm : TxnFsm σ ε) (s₀ : SipStack σ) : List Nat → SipStack σ → Prop where
  | sent : Expiries fsm s₀ [] s₀
  | expired {elapsed : List Nat} {s : SipStack σ} (timer : RunningTimer) :
      Expiries fsm s₀ elapsed s → timer ∈ s.runningTimers →
      Expiries fsm s₀ (elapsed ++ [s.txn.currentDuration]) (fsm.expire timer s).1

/-- The schedule when timers of some durations have expired.  Before the limit one
timer is armed, for the next duration; the time it adds does not exceed the limit, and
its expiry sends the message again unless the limit is reached.  At the limit the
machine has timed out. -/
structure OnSchedule (fsm : TxnFsm σ ε) (next : Nat → Nat) (nT1Val nMaxDuration : Nat)
    (timedOut : SipTxn σ → Prop) (elapsed : List Nat) (s : SipStack σ) : Prop where
  armed : elapsed = [] ∨ elapsed.sum < nMaxDuration →
    s.txn.currentDuration = nextWithin next nT1Val nMaxDuration elapsed ∧
      elapsed.sum + s.txn.currentDuration ≤ max nT1Val nMaxDuration ∧
      s.firstDurationExpired = elapsed.sum + s.txn.currentDuration ∧
      s.txn.maxDuration = nMaxDuration ∧
      ∃ timer, s.runningTimers = [timer] ∧ (fsm.expire timer s).2 =
        if elapsed.sum + s.txn.currentDuration < nMaxDuration then .retransmitted
        else .notified
  ended : elapsed ≠ [] → nMaxDuration ≤ elapsed.sum →
    elapsed.sum = max nT1Val nMaxDuration ∧ s.runningTimers = [] ∧ timedOut s.txn

/-- Every run of expiries is on schedule, none is longer than the time there is, and
one ends with the timeout. -/
structure FollowsSchedule (fsm : TxnFsm σ ε) (next : Nat → Nat) (nT1Val nMaxDuration : Nat)
    (timedOut : SipTxn σ → Prop) (s₀ : SipStack σ) : Prop where
  runs : ∀ elapsed s, Expiries fsm s₀ elapsed s →
    OnSchedule fsm next nT1Val nMaxDuration timedOut elapsed s ∧
      elapsed.length ≤ max nT1Val nMaxDuration
  ends : ∃ elapsed s, Expiries fsm s₀ elapsed s ∧ elapsed ≠ [] ∧
    elapsed.sum = max nT1Val nMaxDuration ∧ timedOut s.txn

/-- A retransmission timer of a state machine: the state it runs in, its event, the
rule its durations follow and what the machine does at the limit. -/
structure RetransmissionTimer (fsm : TxnFsm σ ε) where
  timer : TimerType
  event : ε
  state : σ
  next : SipTxnTimerValues → Nat → Nat
  nextDuration : SipTxn σ → Nat
  giveUp : SipTxn σ → SipTxn σ
  timedOut : SipTxn σ → Prop
  timeoutEvent : fsm.timeoutEvent timer = some event
  live : fsm.isTerminated state = false
  invoke_eq : ∀ immediate (s : SipStack σ), s.txn.txnState = state →
    s.txn.getMsgSentProto = .udp →
    fsm.invoke immediate event s =
      retransmitOr immediate timer True (nextDuration s.txn) giveUp s
  next_le : ∀ values d, next values d ≤ 2 * d
  next_pos : ∀ values d, 0 < values.getTimerValue .timerT2 → 0 < d → 0 < next values d
  nextDuration_eq : ∀ txn n, txn.txnState = state → txn.retransmissionCount = uint16 n →
    txn.currentDuration =
      duration (next txn.txnTimerValues) (txn.getTimerValue .timerT1) n →
    total (next txn.txnTimerValues) (txn.getTimerValue .timerT1) (n + 1) < 2 ^ 31 →
    0 < txn.getTimerValue .timerT1 →
    nextDuration txn = next txn.txnTimerValues txn.currentDuration
  giveUp_timedOut : ∀ txn refCount, timedOut { giveUp txn with refCount := refCount }
  giveUp_notified : ∀ txn, fsm.isTerminated (giveUp txn).txnState = true ∨
    (giveUp txn).rprTxnTerminated = true

namespace RetransmissionTimer

variable {fsm : TxnFsm σ ε} {t : RetransmissionTimer fsm} {values : SipTxnTimerValues}
  {nMaxDuration n : Nat} {s : SipStack σ}

/-- The transaction after some retransmissions, before the limit. -/
structure Waiting (t : RetransmissionTimer fsm) (values : SipTxnTimerValues)
    (nMaxDuration n : Nat) (s : SipStack σ) : Prop where
  inTxnPool : s.inTxnPool = true
  slot : s.Slot (some t.timer)
  txnState : s.txn.txnState = t.state
  udp : s.txn.getMsgSentProto = .udp
  rprTxnTerminated : s.txn.rprTxnTerminated = false
  txnTimerValues : s.txn.txnTimerValues = values
  maxDuration : s.txn.maxDuration = nMaxDuration
  retransmissionCount : s.txn.retransmissionCount = uint16 n
  within : n = 0 ∨ total (t.next values) (values.getTimerValue .timerT1) n < nMaxDuration
  currentDuration : s.txn.currentDuration =
    nextWithin (t.next values) (values.getTimerValue .timerT1) nMaxDuration
      (durations (t.next values) (values.getTimerValue .timerT1) n)
  durationExpired : s.txn.durationExpired = if n = 0 then 0 else
    total (t.next values) (values.getTimerValue .timerT1) n + s.txn.currentDuration

/-- The timer values and the limit of a schedule: T1 and T2 are positive, T1 is an
unsigned 32-bit number and the limit one that can be doubled. -/
structure Bounds (values : SipTxnTimerValues) (nMaxDuration : Nat) : Prop where
  t1_pos : 0 < values.getTimerValue .timerT1
  t1_lt : values.getTimerValue .timerT1 < 2 ^ 32
  t2_pos : 0 < values.getTimerValue .timerT2
  max_lt : 2 * nMaxDuration < 2 ^ 32

theorem Bounds.le_total (hb : Bounds values nMaxDuration) (t : RetransmissionTimer fsm) (n : Nat) :
    n ≤ total (t.next values) (values.getTimerValue .timerT1) n :=
  Backoff.le_total hb.t1_pos (fun d => t.next_pos values d hb.t2_pos) n

theorem Waiting.firstDurationExpired_eq (h : t.Waiting values nMaxDuration n s)
    (hb : Bounds values nMaxDuration) :
    s.firstDurationExpired =
      total (t.next values) (values.getTimerValue .timerT1) n + s.txn.currentDuration := by
  have hexpired := h.durationExpired
  unfold SipStack.firstDurationExpired
  cases n with
  | zero =>
      have hcurrent : s.txn.currentDuration = values.getTimerValue .timerT1 := h.currentDuration
      rw [if_pos rfl] at hexpired
      rw [if_pos hexpired, hcurrent, SipTxn.getTimerValue, h.txnTimerValues]
      exact (Nat.zero_add _).symm
  | succ n =>
      have hle := hb.le_total t (n + 1)
      rw [if_neg (Nat.succ_ne_zero n)] at hexpired
      rw [if_neg (by omega), hexpired]

theorem Waiting.expire_eq (h : t.Waiting values nMaxDuration n s) {timer : RunningTimer}
    (hmem : timer ∈ s.runningTimers) :
    fsm.expire timer s =
      let result := retransmitOr
        (fun timer s => (cbkTxnTimeout fsm (fun _ s => s) timer none s).1) t.timer True
        (t.nextDuration s.increment.released.txn) t.giveUp s.increment.released
      if !result.ok then (result.stack.sipDelete, .invokeFsmFailed)
      else if fsm.isTerminated result.stack.txn.txnState then
        (result.stack.removeFromTxnPool.sipDelete, .notified)
      else if result.stack.txn.rprTxnTerminated then (result.stack, .notified)
      else (result.stack.sipDelete, .retransmitted) := by
  obtain ⟨id, hid, htimers⟩ := h.slot
  obtain rfl : timer = ⟨id, t.timer⟩ := by simpa [htimers] using hmem
  have hlive : fsm.isTerminated (s.dropTimer ⟨id, t.timer⟩).txn.txnState = false := by
    rw [show (s.dropTimer ⟨id, t.timer⟩).txn.txnState = t.state from h.txnState]
    exact t.live
  rw [TxnFsm.expire, cbkTxnTimeout_of_slot _ (s.dropTimer ⟨id, t.timer⟩) h.inTxnPool hid hlive
    t.timeoutEvent, SipStack.dropTimer_increment htimers,
    t.invoke_eq _ s.increment.released h.txnState h.udp]

/-- Before the limit the current duration is the one of the rule, and so is the next,
up to its shortening. -/
theorem Waiting.nextDuration_eq (h : t.Waiting values nMaxDuration n s)
    (hb : Bounds values nMaxDuration)
    (hlt : total (t.next values) (values.getTimerValue .timerT1) n + s.txn.currentDuration <
      nMaxDuration) :
    s.txn.currentDuration = duration (t.next values) (values.getTimerValue .timerT1) n ∧
      t.nextDuration s.increment.released.txn =
        duration (t.next values) (values.getTimerValue .timerT1) (n + 1) := by
  have hcurrent : s.txn.currentDuration =
      duration (t.next values) (values.getTimerValue .timerT1) n := by
    rw [h.currentDuration] at hlt ⊢
    exact nextWithin_eq_duration hlt
  have hmax := hb.max_lt
  refine ⟨hcurrent, ?_⟩
  rw [t.nextDuration_eq s.increment.released.txn n h.txnState h.retransmissionCount]
  · change t.next s.txn.txnTimerValues s.txn.currentDuration = _
    rw [h.txnTimerValues, hcurrent, duration_succ]
  · change s.txn.currentDuration =
      duration (t.next s.txn.txnTimerValues) (s.txn.txnTimerValues.getTimerValue .timerT1) n
    rw [h.txnTimerValues, hcurrent]
  · change total (t.next s.txn.txnTimerValues) (s.txn.txnTimerValues.getTimerValue .timerT1)
      (n + 1) < 2 ^ 31
    rw [h.txnTimerValues, total_succ, ← hcurrent]
    omega
  · change 0 < s.txn.txnTimerValues.getTimerValue .timerT1
    rw [h.txnTimerValues]
    exact hb.t1_pos

/-- The stack when a timer has been started again: the time that had passed and the new
duration are counted. -/
def rearmed (timer : TimerType) (nDurationExpired nDuration : Nat) (s : SipStack σ) :
    SipStack σ :=
  { s with
    txn := { s.txn with
      retransmissionCount := uint16 (s.txn.retransmissionCount + 1)
      timerType := timer
      timerId := some s.nextTimerId
      durationExpired := uint32 (nDurationExpired + nDuration)
      currentDuration := nDuration
      refCount := s.txn.refCount + 1 - 1 }
    runningTimers := [⟨s.nextTimerId, timer⟩]
    nextTimerId := s.nextTimerId + 1 }

/-- An expiry before the limit starts the timer again and sends the message again. -/
theorem Waiting.expire_of_lt (h : t.Waiting values nMaxDuration n s)
    (hb : Bounds values nMaxDuration)
    (hlt : total (t.next values) (values.getTimerValue .timerT1) n + s.txn.currentDuration <
      nMaxDuration) {timer : RunningTimer} (hmem : timer ∈ s.runningTimers)
    {nDuration : Nat} (hduration : nDuration = shortened nMaxDuration
      (total (t.next values) (values.getTimerValue .timerT1) (n + 1))
      (duration (t.next values) (values.getTimerValue .timerT1) (n + 1))) :
    0 < nDuration ∧
      fsm.expire timer s =
        (rearmed t.timer (total (t.next values) (values.getTimerValue .timerT1) (n + 1)) nDuration
          s, .retransmitted) := by
  obtain ⟨hcurrent, hnext⟩ := h.nextDuration_eq hb hlt
  have hfirst : s.increment.released.firstDurationExpired =
      total (t.next values) (values.getTimerValue .timerT1) (n + 1) := by
    rw [total_succ, ← hcurrent]
    exact h.firstDurationExpired_eq hb
  have hmaxDuration : s.increment.released.txn.maxDuration = nMaxDuration := h.maxDuration
  have htotal : total (t.next values) (values.getTimerValue .timerT1) (n + 1) < nMaxDuration := by
    rw [total_succ, ← hcurrent]
    exact hlt
  have hmax := hb.max_lt
  have hfirst_le : values.getTimerValue .timerT1 ≤
      total (t.next values) (values.getTimerValue .timerT1) (n + 1) :=
    first_le_total n
  have hT1 : s.increment.released.txn.getTimerValue .timerT1 < 2 ^ 31 := by
    change s.txn.txnTimerValues.getTimerValue .timerT1 < 2 ^ 31
    rw [h.txnTimerValues]
    omega
  have hpos : 0 < nDuration := by
    have := duration_pos hb.t1_pos (fun d => t.next_pos values d hb.t2_pos) (n + 1)
    rw [hduration]
    unfold shortened
    split <;> omega
  refine ⟨hpos, ?_⟩
  rw [h.expire_eq hmem, retransmitOr_of_lt trivial (by rw [hfirst, hmaxDuration]; exact htotal),
    hfirst, hmaxDuration, hnext, ← hduration, SipStack.countFirstExpiry_eq hT1, hfirst,
    restartTimer_of_pos _ _ hpos]
  have hlive : fsm.isTerminated s.txn.txnState = false := by
    rw [h.txnState]
    exact t.live
  have hflag : s.txn.rprTxnTerminated = false := h.rprTxnTerminated
  simp only [SipStack.mapTxn, SipStack.armed, SipTxn.setCurrentDuration,
    SipTxn.increaseDurationExpired, SipTxn.increaseTxnCount, SipStack.released,
    SipStack.increment, Bool.not_true, Bool.false_eq_true, ↓reduceIte, hlive, hflag,
    SipStack.sipDelete, rearmed, List.nil_append]

theorem Waiting.retransmit (h : t.Waiting values nMaxDuration n s)
    (hb : Bounds values nMaxDuration)
    (hlt : total (t.next values) (values.getTimerValue .timerT1) n + s.txn.currentDuration <
      nMaxDuration) {timer : RunningTimer} (hmem : timer ∈ s.runningTimers)
    (hfits : total (t.next values) (values.getTimerValue .timerT1) (n + 2) < 2 ^ 32) :
    t.Waiting values nMaxDuration (n + 1) (fsm.expire timer s).1 := by
  have hcurrent := (h.nextDuration_eq hb hlt).1
  have htotal : total (t.next values) (values.getTimerValue .timerT1) (n + 1) < nMaxDuration := by
    rw [total_succ, ← hcurrent]
    exact hlt
  have hshort : shortened nMaxDuration
      (total (t.next values) (values.getTimerValue .timerT1) (n + 1))
      (duration (t.next values) (values.getTimerValue .timerT1) (n + 1)) =
      nextWithin (t.next values) (values.getTimerValue .timerT1) nMaxDuration
        (durations (t.next values) (values.getTimerValue .timerT1) (n + 1)) := by
    rw [nextWithin_succ, shortened, ← total_succ, uint32, Nat.mod_eq_of_lt hfits, total_succ (n + 1)]
    split <;> omega
  have hmax := hb.max_lt
  have hle : total (t.next values) (values.getTimerValue .timerT1) (n + 1) +
      nextWithin (t.next values) (values.getTimerValue .timerT1) nMaxDuration
        (durations (t.next values) (values.getTimerValue .timerT1) (n + 1)) ≤ nMaxDuration := by
    rw [nextWithin_succ]
    omega
  obtain ⟨nDuration, hduration⟩ : ∃ nDuration, nDuration =
      nextWithin (t.next values) (values.getTimerValue .timerT1) nMaxDuration
        (durations (t.next values) (values.getTimerValue .timerT1) (n + 1)) := ⟨_, rfl⟩
  rw [← hduration] at hshort hle
  obtain ⟨hpos, hexpire⟩ := h.expire_of_lt hb hlt hmem hshort.symm
  rw [hexpire]
  unfold rearmed
  refine ⟨h.inTxnPool, ⟨s.nextTimerId, rfl, rfl⟩, h.txnState, h.udp,
    h.rprTxnTerminated, h.txnTimerValues, h.maxDuration, ?_, .inr htotal, hduration, ?_⟩
  · change uint16 (s.txn.retransmissionCount + 1) = uint16 (n + 1)
    rw [h.retransmissionCount]
    simp only [uint16]
    omega
  · rw [if_neg (Nat.succ_ne_zero n)]
    change uint32 (_ + nDuration) = _ + nDuration
    exact Nat.mod_eq_of_lt (by omega)

theorem countFirstExpiry_runningTimers (s : SipStack σ) :
    s.countFirstExpiry.runningTimers = s.runningTimers := by
  unfold SipStack.countFirstExpiry
  split <;> rfl

theorem Waiting.expire_of_le (h : t.Waiting values nMaxDuration n s)
    (hb : Bounds values nMaxDuration)
    (hle : nMaxDuration ≤
      total (t.next values) (values.getTimerValue .timerT1) n + s.txn.currentDuration)
    {timer : RunningTimer} (hmem : timer ∈ s.runningTimers) :
    (fsm.expire timer s).2 = .notified ∧ (fsm.expire timer s).1.runningTimers = [] ∧
      t.timedOut (fsm.expire timer s).1.txn := by
  have hlimit : ¬ (True ∧
      s.increment.released.firstDurationExpired < s.increment.released.txn.maxDuration) := by
    rintro ⟨-, hlt⟩
    have hfirst : s.increment.released.firstDurationExpired = _ := h.firstDurationExpired_eq hb
    have hmax : s.increment.released.txn.maxDuration = nMaxDuration := h.maxDuration
    rw [hfirst, hmax] at hlt
    exact absurd hle (Nat.not_le.mpr hlt)
  have htimers : s.increment.released.countFirstExpiry.runningTimers = [] :=
    countFirstExpiry_runningTimers _
  have hpool : s.increment.released.countFirstExpiry.inTxnPool = true :=
    (KeepsTxn.countFirstExpiry _).inTxnPool.trans h.inTxnPool
  rw [h.expire_eq hmem, retransmitOr_of_not hlimit]
  generalize s.increment.released.countFirstExpiry = s' at htimers hpool
  simp only [SipStack.mapTxn, Bool.not_true, Bool.false_eq_true, ↓reduceIte]
  by_cases hterm : fsm.isTerminated (t.giveUp s'.txn).txnState = true
  · simp only [hterm, ↓reduceIte, SipStack.removeFromTxnPool, hpool, SipStack.sipDelete,
      SipStack.mapTxn]
    exact ⟨trivial, htimers, t.giveUp_timedOut _ _⟩
  · have hflag := (t.giveUp_notified s'.txn).resolve_left hterm
    simp only [hterm, Bool.false_eq_true, ↓reduceIte, hflag]
    exact ⟨trivial, htimers, t.giveUp_timedOut _ (t.giveUp s'.txn).refCount⟩

theorem Waiting.runningTimers (h : t.Waiting values nMaxDuration n s) :
    ∃ timer, s.runningTimers = [timer] := by
  obtain ⟨id, -, htimers⟩ := h.slot
  exact ⟨_, htimers⟩

theorem Waiting.currentDuration_le (h : t.Waiting values nMaxDuration n s) :
    total (t.next values) (values.getTimerValue .timerT1) n + s.txn.currentDuration ≤
      max (values.getTimerValue .timerT1) nMaxDuration := by
  rw [h.currentDuration]
  rcases h.within with rfl | hlt
  · rw [nextWithin_zero]
    exact Nat.le_trans (Nat.le_of_eq (Nat.zero_add _)) (Nat.le_max_left _ _)
  · cases n with
    | zero =>
        rw [nextWithin_zero]
        exact Nat.le_trans (Nat.le_of_eq (Nat.zero_add _)) (Nat.le_max_left _ _)
    | succ n =>
        rw [nextWithin_succ]
        omega

theorem Waiting.onSchedule (h : t.Waiting values nMaxDuration n s)
    (hb : Bounds values nMaxDuration) :
    OnSchedule fsm (t.next values) (values.getTimerValue .timerT1) nMaxDuration t.timedOut
      (durations (t.next values) (values.getTimerValue .timerT1) n) s := by
  obtain ⟨timer, htimers⟩ := h.runningTimers
  have hmem : timer ∈ s.runningTimers := by simp [htimers]
  refine ⟨fun _ => ?_, fun hne hle => ?_⟩
  · rw [sum_durations]
    refine ⟨h.currentDuration, h.currentDuration_le, h.firstDurationExpired_eq hb, h.maxDuration,
      timer, htimers, ?_⟩
    split
    · rename_i hlt
      rw [(h.expire_of_lt hb hlt hmem rfl).2]
    · rename_i hlt
      exact (h.expire_of_le hb (Nat.le_of_not_lt hlt) hmem).1
  · rw [sum_durations] at hle
    rcases h.within with rfl | hlt
    · exact absurd rfl hne
    · exact absurd hle (Nat.not_le.mpr hlt)

theorem Waiting.total_of_le (h : t.Waiting values nMaxDuration n s)
    (hle : nMaxDuration ≤
      total (t.next values) (values.getTimerValue .timerT1) n + s.txn.currentDuration) :
    total (t.next values) (values.getTimerValue .timerT1) n + s.txn.currentDuration =
      max (values.getTimerValue .timerT1) nMaxDuration := by
  have hmax := h.currentDuration_le
  have hcurrent := h.currentDuration
  cases n with
  | zero =>
      rw [nextWithin_zero] at hcurrent
      have hzero : total (t.next values) (values.getTimerValue .timerT1) 0 = 0 := rfl
      omega
  | succ n =>
      have hlt := h.within.resolve_left (Nat.succ_ne_zero n)
      have hfirst : values.getTimerValue .timerT1 ≤
          total (t.next values) (values.getTimerValue .timerT1) (n + 1) := first_le_total n
      omega

theorem Waiting.currentDuration_pos (h : t.Waiting values nMaxDuration n s)
    (hb : Bounds values nMaxDuration) : 0 < s.txn.currentDuration := by
  rw [h.currentDuration]
  cases n with
  | zero => exact hb.t1_pos
  | succ n =>
      have hlt := h.within.resolve_left (Nat.succ_ne_zero n)
      have hpos := duration_pos hb.t1_pos (fun d => t.next_pos values d hb.t2_pos) (n + 1)
      rw [nextWithin_succ]
      omega

/-- What the runs of expiries keep true: the transaction waits, or it has timed out at
the limit. -/
inductive RunInv (t : RetransmissionTimer fsm) (values : SipTxnTimerValues)
    (nMaxDuration : Nat) (elapsed : List Nat) (s : SipStack σ) : Prop where
  | waiting (n : Nat) :
      elapsed = durations (t.next values) (values.getTimerValue .timerT1) n →
      t.Waiting values nMaxDuration n s → RunInv t values nMaxDuration elapsed s
  | ended : elapsed.sum = max (values.getTimerValue .timerT1) nMaxDuration →
      elapsed.length ≤ max (values.getTimerValue .timerT1) nMaxDuration → elapsed ≠ [] →
      s.runningTimers = [] → t.timedOut s.txn → RunInv t values nMaxDuration elapsed s

theorem RunInv.onSchedule {elapsed : List Nat} (h : t.RunInv values nMaxDuration elapsed s)
    (hb : Bounds values nMaxDuration) :
    OnSchedule fsm (t.next values) (values.getTimerValue .timerT1) nMaxDuration t.timedOut
        elapsed s ∧
      elapsed.length ≤ max (values.getTimerValue .timerT1) nMaxDuration := by
  cases h with
  | waiting n helapsed hwaiting =>
      subst helapsed
      refine ⟨hwaiting.onSchedule hb, ?_⟩
      rw [length_durations]
      have hle := hb.le_total t n
      have hmax := hwaiting.currentDuration_le
      omega
  | ended hsum hlength hne htimers htimedOut =>
      refine ⟨⟨fun harmed => ?_, fun _ _ => ⟨hsum, htimers, htimedOut⟩⟩, hlength⟩
      have hlt := harmed.resolve_left hne
      rw [hsum] at hlt
      exact absurd (Nat.le_max_right _ _) (Nat.not_le.mpr hlt)

theorem RunInv.expire {elapsed : List Nat} (h : t.RunInv values nMaxDuration elapsed s)
    (hb : Bounds values nMaxDuration)
    (hfits : Fits (t.next values) (values.getTimerValue .timerT1) nMaxDuration (2 ^ 32))
    {timer : RunningTimer} (hmem : timer ∈ s.runningTimers) :
    t.RunInv values nMaxDuration (elapsed ++ [s.txn.currentDuration])
      (fsm.expire timer s).1 := by
  cases h with
  | ended _ _ _ htimers _ =>
      rw [htimers] at hmem
      exact absurd hmem List.not_mem_nil
  | waiting n helapsed hwaiting =>
      subst helapsed
      by_cases hlt : total (t.next values) (values.getTimerValue .timerT1) n +
          s.txn.currentDuration < nMaxDuration
      · have hcurrent := (hwaiting.nextDuration_eq hb hlt).1
        refine .waiting (n + 1) ?_ (hwaiting.retransmit hb hlt hmem (hfits n ?_))
        · rw [hcurrent, durations_succ]
        · rw [total_succ, ← hcurrent]
          exact hlt
      · obtain ⟨-, htimers, htimedOut⟩ := hwaiting.expire_of_le hb (Nat.le_of_not_lt hlt) hmem
        have hsum := hwaiting.total_of_le (Nat.le_of_not_lt hlt)
        have hpos := hwaiting.currentDuration_pos hb
        have hle := hb.le_total t n
        refine .ended ?_ ?_ (by simp) htimers htimedOut
        · rw [List.sum_append, sum_durations, List.sum_singleton]
          exact hsum
        · rw [List.length_append, length_durations, List.length_singleton]
          omega

theorem exists_waiting {s₀ : SipStack σ} (hb : Bounds values nMaxDuration)
    (h₀ : t.Waiting values nMaxDuration 0 s₀) (n : Nat)
    (hfits : ∀ m < n, total (t.next values) (values.getTimerValue .timerT1) (m + 2) < 2 ^ 32)
    (hlt : n = 0 ∨ total (t.next values) (values.getTimerValue .timerT1) n < nMaxDuration) :
    ∃ s, Expiries fsm s₀ (durations (t.next values) (values.getTimerValue .timerT1) n) s ∧
      t.Waiting values nMaxDuration n s := by
  induction n with
  | zero => exact ⟨s₀, .sent, h₀⟩
  | succ n ih =>
      have hnow : total (t.next values) (values.getTimerValue .timerT1) (n + 1) < nMaxDuration :=
        hlt.resolve_left (Nat.succ_ne_zero n)
      have hbefore : n = 0 ∨
          total (t.next values) (values.getTimerValue .timerT1) n < nMaxDuration :=
        .inr (Nat.lt_of_le_of_lt (total_le_total (Nat.le_succ n)) hnow)
      obtain ⟨s, hrun, hwaiting⟩ := ih (fun m hm => hfits m (Nat.lt_succ_of_lt hm)) hbefore
      obtain ⟨timer, htimers⟩ := hwaiting.runningTimers
      have hmem : timer ∈ s.runningTimers := by simp [htimers]
      have hcurrent : s.txn.currentDuration =
          duration (t.next values) (values.getTimerValue .timerT1) n :=
        hwaiting.currentDuration.trans (nextWithin_of_total_lt hnow)
      refine ⟨(fsm.expire timer s).1, ?_, hwaiting.retransmit hb ?_ hmem (hfits n (Nat.lt_succ_self n))⟩
      · rw [durations_succ, ← hcurrent]
        exact .expired timer hrun hmem
      · rw [hcurrent, ← total_succ]
        exact hnow

theorem Waiting.not_onSchedule (h : t.Waiting values nMaxDuration n s)
    (hb : Bounds values nMaxDuration)
    (hlt : total (t.next values) (values.getTimerValue .timerT1) (n + 1) < nMaxDuration)
    (hwraps : 2 ^ 32 ≤ total (t.next values) (values.getTimerValue .timerT1) (n + 2))
    {timer : RunningTimer} (hmem : timer ∈ s.runningTimers) :
    (fsm.expire timer s).1.txn.currentDuration ≠
      nextWithin (t.next values) (values.getTimerValue .timerT1) nMaxDuration
        (durations (t.next values) (values.getTimerValue .timerT1) (n + 1)) := by
  have hmax := hb.max_lt
  have htreble : total (t.next values) (values.getTimerValue .timerT1) (n + 2) ≤
      3 * total (t.next values) (values.getTimerValue .timerT1) (n + 1) :=
    total_succ_succ_le (t.next_le values) n
  have hsucc : total (t.next values) (values.getTimerValue .timerT1) (n + 2) =
      total (t.next values) (values.getTimerValue .timerT1) (n + 1) +
        duration (t.next values) (values.getTimerValue .timerT1) (n + 1) := total_succ (n + 1)
  have hshort : shortened nMaxDuration
      (total (t.next values) (values.getTimerValue .timerT1) (n + 1))
      (duration (t.next values) (values.getTimerValue .timerT1) (n + 1)) =
      duration (t.next values) (values.getTimerValue .timerT1) (n + 1) := by
    rw [shortened, ← hsucc, uint32, if_neg (by omega)]
  have hcurrent := h.currentDuration.trans (nextWithin_of_total_lt hlt)
  have hnow : total (t.next values) (values.getTimerValue .timerT1) n + s.txn.currentDuration <
      nMaxDuration := by
    rw [hcurrent, ← total_succ]
    exact hlt
  rw [(h.expire_of_lt hb hnow hmem hshort.symm).2, nextWithin_succ]
  change duration (t.next values) (values.getTimerValue .timerT1) (n + 1) ≠ _
  omega

/-- The schedule is kept if and only if no sum of the time passed and the next duration
is cut off at 32 bits. -/
theorem followsSchedule_iff {s₀ : SipStack σ} (hb : Bounds values nMaxDuration)
    (h₀ : t.Waiting values nMaxDuration 0 s₀) :
    FollowsSchedule fsm (t.next values) (values.getTimerValue .timerT1) nMaxDuration t.timedOut
        s₀ ↔
      Fits (t.next values) (values.getTimerValue .timerT1) nMaxDuration (2 ^ 32) := by
  constructor
  · intro h n hlt
    by_contra hwraps
    have hmax := hb.max_lt
    have hbefore (m : Nat) (hm : m < n) :
        total (t.next values) (values.getTimerValue .timerT1) (m + 2) < 2 ^ 32 := by
      have hle : total (t.next values) (values.getTimerValue .timerT1) (m + 2) ≤
          total (t.next values) (values.getTimerValue .timerT1) (n + 1) := total_le_total (by omega)
      omega
    have hwithin : total (t.next values) (values.getTimerValue .timerT1) n < nMaxDuration :=
      Nat.lt_of_le_of_lt (total_le_total (Nat.le_succ n)) hlt
    obtain ⟨s, hrun, hwaiting⟩ := exists_waiting hb h₀ n hbefore (.inr hwithin)
    obtain ⟨timer, htimers⟩ := hwaiting.runningTimers
    have hmem : timer ∈ s.runningTimers := by simp [htimers]
    have hcurrent : s.txn.currentDuration =
        duration (t.next values) (values.getTimerValue .timerT1) n :=
      hwaiting.currentDuration.trans (nextWithin_of_total_lt hlt)
    have hnext := (h.runs _ _ (.expired timer hrun hmem)).1.armed (.inr (by
      rw [hcurrent, ← durations_succ, sum_durations]
      exact hlt))
    rw [hcurrent, ← durations_succ] at hnext
    exact hwaiting.not_onSchedule hb hlt (Nat.le_of_not_lt hwraps) hmem hnext.1
  · intro hfits
    constructor
    · intro elapsed s hrun
      suffices hinv : t.RunInv values nMaxDuration elapsed s from hinv.onSchedule hb
      induction hrun with
      | sent => exact .waiting 0 rfl h₀
      | expired timer _ hmem ih => exact ih.expire hb hfits hmem
    · obtain ⟨n, hwithin, hle⟩ : ∃ n,
          (n = 0 ∨ total (t.next values) (values.getTimerValue .timerT1) n < nMaxDuration) ∧
            nMaxDuration ≤ total (t.next values) (values.getTimerValue .timerT1) (n + 1) := by
        have hexists : ∃ n, nMaxDuration ≤
            total (t.next values) (values.getTimerValue .timerT1) (n + 1) :=
          ⟨nMaxDuration, Nat.le_trans (Nat.le_succ _) (hb.le_total t (nMaxDuration + 1))⟩
        refine ⟨Nat.find hexists, ?_, Nat.find_spec hexists⟩
        rcases Nat.eq_zero_or_pos (Nat.find hexists) with hzero | hpos
        · exact .inl hzero
        · have hmin := Nat.find_min hexists (Nat.sub_lt hpos Nat.one_pos)
          rw [Nat.sub_add_cancel hpos] at hmin
          exact .inr (Nat.lt_of_not_le hmin)
      have hbefore (m : Nat) (hm : m < n) :
          total (t.next values) (values.getTimerValue .timerT1) (m + 2) < 2 ^ 32 := by
        refine hfits m ?_
        have hlt := hwithin.resolve_left (by omega)
        exact Nat.lt_of_le_of_lt (total_le_total hm) hlt
      obtain ⟨s, hrun, hwaiting⟩ := exists_waiting hb h₀ n hbefore hwithin
      obtain ⟨timer, htimers⟩ := hwaiting.runningTimers
      have hmem : timer ∈ s.runningTimers := by simp [htimers]
      have hlimit : nMaxDuration ≤ total (t.next values) (values.getTimerValue .timerT1) n +
          s.txn.currentDuration := by
        by_contra hlt
        have hcurrent := (hwaiting.nextDuration_eq hb (Nat.lt_of_not_le hlt)).1
        rw [hcurrent] at hlt
        exact hlt hle
      refine ⟨_, _, .expired timer hrun hmem, by simp, ?_, (hwaiting.expire_of_le hb hlimit hmem).2.2⟩
      rw [List.sum_append, sum_durations, List.sum_singleton]
      exact hwaiting.total_of_le hlimit

end RetransmissionTimer

end ImsStack.Txn
