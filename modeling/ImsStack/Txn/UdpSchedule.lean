import ImsStack.Txn.Schedule
import ImsStack.Txn.TimerCoverage

/-!
The retransmission schedules over UDP: timers A and B of an INVITE request, E and F of
another request, G and H of a failure response to an INVITE request, and G of a
reliable provisional response.
-/

namespace ImsStack.Txn

open Backoff

/-- A message has been handed to UDP. -/
def SipStack.sentOverUdp {σ : Type} (s : SipStack σ) : SipStack σ :=
  s.mapTxn fun txn => { txn with transpInfo := some .udp }

theorem doubled_pos (d : Nat) (hpos : 0 < d) : 0 < 2 * d :=
  Nat.mul_pos (Nat.succ_pos 1) hpos

theorem capped_pos (d t2 : Nat) (ht2 : 0 < t2) (hpos : 0 < d) : 0 < min (2 * d) t2 := by
  rw [Nat.lt_min]
  exact ⟨doubled_pos d hpos, ht2⟩

theorem doubled_duration {σ : Type} (txn : SipTxn σ) (next : Nat → Nat) (n : Nat)
    (hcurrent : txn.currentDuration = duration next (txn.getTimerValue .timerT1) n)
    (htotal : total next (txn.getTimerValue .timerT1) (n + 1) < 2 ^ 31) :
    uint32 (txn.currentDuration * 2) = 2 * txn.currentDuration := by
  rw [total_succ, ← hcurrent] at htotal
  rw [uint32, Nat.mod_eq_of_lt (by omega), Nat.mul_comm]

theorem capped_duration {σ : Type} (txn : SipTxn σ) (next : Nat → Nat) (n : Nat)
    (hcurrent : txn.currentDuration = duration next (txn.getTimerValue .timerT1) n)
    (htotal : total next (txn.getTimerValue .timerT1) (n + 1) < 2 ^ 31) :
    min (uint32 (txn.currentDuration * 2)) (txn.getTimerValue .timerT2) =
      min (2 * txn.currentDuration) (txn.getTimerValue .timerT2) := by
  rw [doubled_duration txn next n hcurrent htotal]

namespace SipInviteClientTxn

theorem timerA_nextDuration (txn : SipTxn State) (n : Nat)
    (hcount : txn.retransmissionCount = uint16 n)
    (hcurrent : txn.currentDuration =
      duration (fun d => 2 * d) (txn.getTimerValue .timerT1) n)
    (htotal : total (fun d => 2 * d) (txn.getTimerValue .timerT1) (n + 1) < 2 ^ 31)
    (hT1 : 0 < txn.getTimerValue .timerT1) :
    uint32 (uint32 (2 ^ uint16 (txn.retransmissionCount + 1)) * txn.getTimerValue .timerT1) =
      2 * txn.currentDuration := by
  have hdouble := total_double (txn.getTimerValue .timerT1) (n + 1)
  have hpow : 2 ^ (n + 1) * txn.getTimerValue .timerT1 <
      (2 ^ 31 + 1) * txn.getTimerValue .timerT1 := by
    have hle : 2 ^ 31 ≤ 2 ^ 31 * txn.getTimerValue .timerT1 := Nat.le_mul_of_pos_right _ hT1
    rw [Nat.add_mul, Nat.one_mul]
    omega
  have hle : n + 1 ≤ 31 := by
    have hlt := Nat.lt_of_mul_lt_mul_right hpow
    exact (Nat.pow_le_pow_iff_right (by decide)).mp (Nat.le_of_lt_succ hlt)
  have hcount' : uint16 (txn.retransmissionCount + 1) = n + 1 := by
    rw [hcount]
    simp only [uint16]
    omega
  have hpow' : uint32 (2 ^ (n + 1)) = 2 ^ (n + 1) := by
    have : 2 ^ (n + 1) ≤ 2 ^ 31 := Nat.pow_le_pow_right (by decide) hle
    exact Nat.mod_eq_of_lt (by omega)
  have hfirst : txn.getTimerValue .timerT1 ≤
      total (fun d => 2 * d) (txn.getTimerValue .timerT1) (n + 1) := first_le_total n
  rw [hcount', hpow', hcurrent, duration_double, uint32, Nat.mod_eq_of_lt (by omega),
    Nat.pow_succ]
  ring

/-- Timer A. -/
def timerA : RetransmissionTimer fsm where
  timer := .timerA
  event := .timerABTimeOut
  state := .calling
  next _ d := 2 * d
  nextDuration txn := uint32 (uint32 (2 ^ uint16 (txn.retransmissionCount + 1)) *
    txn.getTimerValue .timerT1)
  giveUp := (·.setTxnState .terminated)
  timedOut txn := txn.txnState = .terminated
  timeoutEvent := rfl
  live := rfl
  invoke_eq immediate s hstate hudp := by
    change runAction immediate (table s.txn.txnState .timerABTimeOut) s = _
    rw [hstate]
    change callingStateTimerABTimeout immediate s = _
    rw [callingStateTimerABTimeout_eq, retransmitOr_of_true hudp]
  next_le _ d := Nat.le_refl _
  next_pos _ d _ hpos := doubled_pos d hpos
  nextDuration_eq txn n _ hcount hcurrent htotal hT1 :=
    timerA_nextDuration txn n hcount hcurrent htotal hT1
  giveUp_timedOut _ _ := rfl
  giveUp_notified _ := .inl rfl

theorem waiting_sent (data : SipTxnFsmData) (key : SipTxnKey) (values : SipTxnTimerValues)
    (keys : List SipTxnKey) (nextTimerId : Nat) (hudp : data.transpProtocol = .udp)
    (haccepts : data.poolAccepts = true) (hcopy : key.copy.isSome = true)
    (hT1 : 0 < values.getTimerValue .timerT1) :
    timerA.Waiting values (values.getTimerValue .timerB) 0
      (fsm.invokeFsm (.sendInvReq data)
        (newStack (newTxn .idle key values) keys nextTimerId)).stack.sentOverUdp := by
  obtain ⟨newTxnKey, hnew⟩ := Option.isSome_iff_exists.mp hcopy
  have hsent : (fsm.invokeFsm (.sendInvReq data)
      (newStack (newTxn .idle key values) keys nextTimerId)).stack =
      ((((newStack (newTxn .idle key values) keys nextTimerId).addToTxnPool.armed .timerA
        (values.getTimerValue .timerT1)).mapTxn
          (·.setMaxDuration (values.getTimerValue .timerB))).mapTxn (·.setTxnState .calling)) := by
    change (idleStateSendInviteRequest _ data _).stack = _
    unfold idleStateSendInviteRequest
    rw [show (newStack (newTxn State.idle key values) keys nextTimerId).txn.txnKey.copy =
      some newTxnKey from hnew]
    simp only [haccepts, hudp, Bool.not_true, Bool.false_eq_true, ↓reduceIte]
    rw [SipStack.startTxnTimer_of_pos]
    · rfl
    · exact hT1
  rw [hsent]
  refine ⟨rfl, ⟨nextTimerId, rfl, rfl⟩, rfl, rfl, rfl, rfl, rfl, rfl, .inl rfl, rfl, rfl⟩

end SipInviteClientTxn

namespace SipNonInviteClientTxn

/-- Timer E in the state Trying: doubled up to T2. -/
def timerE : RetransmissionTimer fsm where
  timer := .timerE
  event := .timerEFTimeOut
  state := .trying
  next values d := min (2 * d) (values.getTimerValue .timerT2)
  nextDuration txn := min (uint32 (txn.currentDuration * 2)) (txn.getTimerValue .timerT2)
  giveUp := (·.setTxnState .terminated)
  timedOut txn := txn.txnState = .terminated
  timeoutEvent := rfl
  live := rfl
  invoke_eq immediate s hstate hudp := by
    change runAction immediate (table s.txn.txnState .timerEFTimeOut) s = _
    rw [hstate]
    change handleTimeout immediate s = _
    rw [handleTimeout_eq, retransmitOr_of_true hudp, if_pos hstate]
  next_le _ d := Nat.min_le_left _ _
  next_pos _ d hT2 hpos := capped_pos d _ hT2 hpos
  nextDuration_eq txn n _ _ hcurrent htotal _ := capped_duration txn _ n hcurrent htotal
  giveUp_timedOut _ _ := rfl
  giveUp_notified _ := .inl rfl

theorem waiting_sent (data : SipTxnFsmData) (key : SipTxnKey) (values : SipTxnTimerValues)
    (keys : List SipTxnKey) (nextTimerId : Nat) (hudp : data.transpProtocol = .udp)
    (haccepts : data.poolAccepts = true) (hcopy : key.copy.isSome = true)
    (hT1 : 0 < values.getTimerValue .timerT1) :
    timerE.Waiting values (values.getTimerValue .timerF) 0
      (fsm.invokeFsm (.sendNonInvReq data)
        (newStack (newTxn .idle key values) keys nextTimerId)).stack.sentOverUdp := by
  obtain ⟨newTxnKey, hnew⟩ := Option.isSome_iff_exists.mp hcopy
  have hsent : ∃ txnKeyList, (fsm.invokeFsm (.sendNonInvReq data)
      (newStack (newTxn .idle key values) keys nextTimerId)).stack =
      { ((((newStack (newTxn .idle key values) keys nextTimerId).addToTxnPool.armed .timerE
        (values.getTimerValue .timerT1)).mapTxn
          (·.setMaxDuration (values.getTimerValue .timerF))).mapTxn (·.setTxnState .trying)) with
        txnKeyList := txnKeyList } := by
    change ∃ txnKeyList, (idleStateSendNonInviteRequest _ data _).stack = _
    unfold idleStateSendNonInviteRequest
    rw [show (newStack (newTxn State.idle key values) keys nextTimerId).txn.txnKey.copy =
      some newTxnKey from hnew]
    simp only [haccepts, hudp, Bool.not_true, Bool.false_eq_true, ↓reduceIte]
    rw [SipStack.startTxnTimer_of_pos]
    · split <;> exact ⟨_, rfl⟩
    · exact hT1
  obtain ⟨txnKeyList, hsent⟩ := hsent
  rw [hsent]
  refine ⟨rfl, ⟨nextTimerId, rfl, rfl⟩, rfl, rfl, rfl, rfl, rfl, rfl, .inl rfl, rfl, rfl⟩

end SipNonInviteClientTxn

namespace SipInviteServerTxn

/-- Timer G of a failure response: doubled up to T2. -/
def timerG : RetransmissionTimer fsm where
  timer := .timerG
  event := .timerGHTimeOut .timerG
  state := .completed
  next values d := min (2 * d) (values.getTimerValue .timerT2)
  nextDuration txn := min (uint32 (txn.currentDuration * 2)) (txn.getTimerValue .timerT2)
  giveUp := (·.setTxnState .terminated)
  timedOut txn := txn.txnState = .terminated
  timeoutEvent := rfl
  live := rfl
  invoke_eq immediate s hstate hudp := by
    change runAction immediate (table s.txn.txnState (.timerGHTimeOut .timerG)) s = _
    rw [hstate]
    change completedStateTimerGHTimeout immediate s = _
    rw [completedStateTimerGHTimeout_eq, retransmitOr_of_true hudp]
  next_le _ d := Nat.min_le_left _ _
  next_pos _ d hT2 hpos := capped_pos d _ hT2 hpos
  nextDuration_eq txn n _ _ hcurrent htotal _ := capped_duration txn _ n hcurrent htotal
  giveUp_timedOut _ _ := rfl
  giveUp_notified _ := .inl rfl

/-- Timer G of a reliable provisional response: doubled, whatever T2 is. -/
def timerGOfRpr : RetransmissionTimer fsm where
  timer := .timerG
  event := .timerGHTimeOut .timerG
  state := .proceeding
  next _ d := 2 * d
  nextDuration txn := uint32 (txn.currentDuration * 2)
  giveUp := (·.setRprTxnTerminated true)
  timedOut txn := txn.rprTxnTerminated = true
  timeoutEvent := rfl
  live := rfl
  invoke_eq immediate s hstate _ := by
    change runAction immediate (table s.txn.txnState (.timerGHTimeOut .timerG)) s = _
    rw [hstate]
    change proceedingStateTimerGHTimeout immediate .timerG s = _
    rw [proceedingStateTimerGHTimeout_eq]
  next_le _ d := Nat.le_refl _
  next_pos _ d _ hpos := doubled_pos d hpos
  nextDuration_eq txn n _ _ hcurrent htotal _ := doubled_duration txn _ n hcurrent htotal
  giveUp_timedOut _ _ := rfl
  giveUp_notified _ := .inr rfl

/-- A transaction that may send a response, none of whose reliable provisional responses
has timed out. -/
structure MaySend (s : Stack) : Prop where
  txnState : s.txn.txnState = .proceeding
  inTxnPool : s.inTxnPool = true
  rprTxnTerminated : s.txn.rprTxnTerminated = false
  slot : ∃ slot, s.Slot slot

theorem waiting_sentFailure {s : Stack} (h : MaySend s) (data : SipTxnFsmData)
    (hudp : data.transpProtocol = .udp) (hT1 : 0 < s.txn.getTimerValue .timerT1) :
    timerG.Waiting s.txn.txnTimerValues (s.txn.getTimerValue .timerH) 0
      (fsm.invokeFsm (.sendFailureResp data) s).stack.sentOverUdp := by
  obtain ⟨slot, hslot⟩ := h.slot
  have hinvoke : (fsm.invokeFsm (.sendFailureResp data) s).stack =
      (((((s.released.deleteKeys s.txn.txnKey).mapTxn (·.initRetransmissionInfo)).armed .timerG
        (s.txn.getTimerValue .timerT1)).mapTxn
          (·.setMaxDuration (s.txn.getTimerValue .timerH))).mapTxn (·.setTxnState .completed)) := by
    change (runAction _ (table s.txn.txnState (.sendFailureResp data)) s).stack = _
    rw [h.txnState]
    change (proceedingStateSendFailureResponse _ data s).stack = _
    simp only [proceedingStateSendFailureResponse, hudp, ↓reduceIte, stopRetransmission_eq hslot]
    rw [SipStack.startTxnTimer_of_pos]
    · rfl
    · exact hT1
  rw [hinvoke]
  refine ⟨h.inTxnPool, ⟨s.nextTimerId, rfl, rfl⟩, rfl, rfl, h.rprTxnTerminated, rfl, rfl, rfl,
    .inl rfl, rfl, rfl⟩

theorem waiting_sentRpr {s : Stack} (h : MaySend s) (data : SipTxnFsmData)
    (hstatus : 100 < data.sipMsgIn.statusCode ∧ data.sipMsgIn.statusCode < 200)
    (hrSeq : data.sipMsgIn.hasRSeq = true) (hT1 : 0 < s.txn.getTimerValue .timerT1)
    (hmax : s.txn.getTimerValue .timerT1 * 64 < 2 ^ 32) :
    timerGOfRpr.Waiting s.txn.txnTimerValues (2 ^ 6 * s.txn.getTimerValue .timerT1) 0
      (fsm.invokeFsm (.sendNon100ProvResp data) s).stack.sentOverUdp := by
  obtain ⟨slot, hslot⟩ := h.slot
  have hinvoke : (fsm.invokeFsm (.sendNon100ProvResp data) s).stack =
      (((((s.released.deleteKeys s.txn.txnKey).mapTxn (·.initRetransmissionInfo)).addKey
        { s.txn.txnKey with rSeqNum := data.sipMsgIn.rSeq.getD 0 }).armed .timerG
          (s.txn.getTimerValue .timerT1)).mapTxn
        (·.setMaxDuration (uint32 (s.txn.getTimerValue .timerT1 * 64)))) := by
    change (runAction _ (table s.txn.txnState (.sendNon100ProvResp data)) s).stack = _
    rw [h.txnState]
    change (proceedingStateSendNon100ProvisionalResponse _ data s).stack = _
    simp only [proceedingStateSendNon100ProvisionalResponse, hstatus, hrSeq, and_self, ↓reduceIte,
      stopRetransmission_eq hslot]
    rw [SipStack.startTxnTimer_of_pos]
    · rfl
    · exact hT1
  rw [hinvoke, uint32, Nat.mod_eq_of_lt hmax]
  refine ⟨h.inTxnPool, ⟨s.nextTimerId, rfl, rfl⟩, h.txnState, rfl, h.rprTxnTerminated, rfl, ?_, rfl,
    .inl rfl, rfl, rfl⟩
  exact Nat.mul_comm _ _

end SipInviteServerTxn

/-- The schedules over UDP.  They are kept if and only if no sum of the time that has
passed and the next duration is cut off at 32 bits, and that of a reliable provisional
response always. -/
theorem followsSchedule_udp :
    (∀ (data : SipTxnFsmData) (key : SipTxnKey) (values : SipTxnTimerValues) keys nextTimerId,
      data.transpProtocol = .udp → data.poolAccepts = true → key.copy.isSome = true →
      RetransmissionTimer.Bounds values (values.getTimerValue .timerB) →
      (FollowsSchedule SipInviteClientTxn.fsm (fun d => 2 * d) (values.getTimerValue .timerT1)
          (values.getTimerValue .timerB) (·.txnState = .terminated)
          (SipInviteClientTxn.fsm.invokeFsm (.sendInvReq data)
            (newStack (newTxn .idle key values) keys nextTimerId)).stack.sentOverUdp ↔
        Fits (fun d => 2 * d) (values.getTimerValue .timerT1) (values.getTimerValue .timerB)
          (2 ^ 32))) ∧
    (∀ (data : SipTxnFsmData) (key : SipTxnKey) (values : SipTxnTimerValues) keys nextTimerId,
      data.transpProtocol = .udp → data.poolAccepts = true → key.copy.isSome = true →
      RetransmissionTimer.Bounds values (values.getTimerValue .timerF) →
      (FollowsSchedule SipNonInviteClientTxn.fsm
          (fun d => min (2 * d) (values.getTimerValue .timerT2)) (values.getTimerValue .timerT1)
          (values.getTimerValue .timerF) (·.txnState = .terminated)
          (SipNonInviteClientTxn.fsm.invokeFsm (.sendNonInvReq data)
            (newStack (newTxn .idle key values) keys nextTimerId)).stack.sentOverUdp ↔
        Fits (fun d => min (2 * d) (values.getTimerValue .timerT2))
          (values.getTimerValue .timerT1) (values.getTimerValue .timerF) (2 ^ 32))) ∧
    (∀ (s : SipInviteServerTxn.Stack) (data : SipTxnFsmData),
      SipInviteServerTxn.MaySend s → data.transpProtocol = .udp →
      RetransmissionTimer.Bounds s.txn.txnTimerValues (s.txn.getTimerValue .timerH) →
      (FollowsSchedule SipInviteServerTxn.fsm
          (fun d => min (2 * d) (s.txn.getTimerValue .timerT2)) (s.txn.getTimerValue .timerT1)
          (s.txn.getTimerValue .timerH) (·.txnState = .terminated)
          (SipInviteServerTxn.fsm.invokeFsm (.sendFailureResp data) s).stack.sentOverUdp ↔
        Fits (fun d => min (2 * d) (s.txn.getTimerValue .timerT2))
          (s.txn.getTimerValue .timerT1) (s.txn.getTimerValue .timerH) (2 ^ 32))) ∧
    (∀ (s : SipInviteServerTxn.Stack) (data : SipTxnFsmData),
      SipInviteServerTxn.MaySend s →
      100 < data.sipMsgIn.statusCode ∧ data.sipMsgIn.statusCode < 200 →
      data.sipMsgIn.hasRSeq = true →
      RetransmissionTimer.Bounds s.txn.txnTimerValues (64 * s.txn.getTimerValue .timerT1) →
      FollowsSchedule SipInviteServerTxn.fsm (fun d => 2 * d) (s.txn.getTimerValue .timerT1)
        (64 * s.txn.getTimerValue .timerT1) (·.rprTxnTerminated = true)
        (SipInviteServerTxn.fsm.invokeFsm (.sendNon100ProvResp data) s).stack.sentOverUdp) := by
  refine ⟨fun data key values keys nextTimerId hudp haccepts hcopy hb => ?_,
    fun data key values keys nextTimerId hudp haccepts hcopy hb => ?_,
    fun s data hmay hudp hb => ?_, fun s data hmay hstatus hrSeq hb => ?_⟩
  · exact RetransmissionTimer.followsSchedule_iff hb
      (SipInviteClientTxn.waiting_sent data key values keys nextTimerId hudp haccepts hcopy hb.t1_pos)
  · exact RetransmissionTimer.followsSchedule_iff hb
      (SipNonInviteClientTxn.waiting_sent data key values keys nextTimerId hudp haccepts hcopy
        hb.t1_pos)
  · exact RetransmissionTimer.followsSchedule_iff hb
      (SipInviteServerTxn.waiting_sentFailure hmay data hudp hb.t1_pos)
  · have hmax : 2 * (64 * s.txn.getTimerValue .timerT1) < 2 ^ 32 := hb.max_lt
    refine (RetransmissionTimer.followsSchedule_iff hb
      (SipInviteServerTxn.waiting_sentRpr hmay data hstatus hrSeq hb.t1_pos (by omega))).mpr ?_
    have hbound : 2 ^ 7 * s.txn.getTimerValue .timerT1 < 2 ^ 32 := by omega
    exact fits_double hbound

section Example

/-- Timer values of 500 ms, a timer B of 32 s and a timer T2 of 4 s. -/
def udpValues : SipTxnTimerValues where
  getTimerValue
    | .timerB => 32000
    | .timerT2 => 4000
    | _ => 500

/-- An INVITE request and the values above. -/
theorem followsSchedule_invite :
    FollowsSchedule SipInviteClientTxn.fsm (fun d => 2 * d) 500 32000 (·.txnState = .terminated)
      (SipInviteClientTxn.fsm.invokeFsm (.sendInvReq (exampleData methodInvite .inviteClient))
        (newStack (newTxn .idle (exampleKey methodInvite .inviteClient) udpValues) []
          0)).stack.sentOverUdp :=
  (followsSchedule_udp.1 (exampleData methodInvite .inviteClient)
    (exampleKey methodInvite .inviteClient) udpValues [] 0 rfl rfl rfl
    ⟨by decide, by decide, by decide, by decide⟩).mpr
    (fits_of_three_mul_le (fun _ => Nat.le_refl _) (by decide))

/-- A timer T1 of almost 25 days and a timer B that is longer by one millisecond. -/
def longValues : SipTxnTimerValues where
  getTimerValue
    | .timerB => 2 ^ 31 - 1
    | _ => 2 ^ 31 - 2

/-- The server when it has received an INVITE request and sent 183 reliably. -/
def rprSent : SipInviteServerTxn.Stack :=
  (SipInviteServerTxn.fsm.invokeFsm
    (.sendNon100ProvResp { exampleData methodInvite .inviteServer with
      sipMsgIn := ⟨exampleKey methodInvite .inviteServer, 183, some 1, none⟩ })
    (SipInviteServerTxn.fsm.invokeFsm (.recvInvReq (exampleData methodInvite .inviteServer))
      (newStack (newTxn .idle (exampleKey methodInvite .inviteServer) udpValues) []
        0)).stack).stack.sentOverUdp

def longInviteSent : SipInviteClientTxn.Stack :=
  (SipInviteClientTxn.fsm.invokeFsm (.sendInvReq (exampleData methodInvite .inviteClient))
    (newStack (newTxn .idle (exampleKey methodInvite .inviteClient) longValues) []
      0)).stack.sentOverUdp

/-- Timer G of a reliable provisional response is not capped at T2: after four expiries
it is armed for 8 s, with T2 at 4 s.  And the sum of the timers of an INVITE request can
be cut off at 32 bits: the second timer A is armed for the doubled duration, which the
limit should have shortened to one millisecond. -/
theorem not_followsSchedule :
    ¬ FollowsSchedule SipInviteServerTxn.fsm (fun d => min (2 * d) 4000) 500 32000
        (·.rprTxnTerminated = true) rprSent ∧
      ¬ FollowsSchedule SipInviteClientTxn.fsm (fun d => 2 * d) (2 ^ 31 - 2) (2 ^ 31 - 1)
        (·.txnState = .terminated) longInviteSent := by
  constructor
  · intro h
    have hrun : ∃ s, Expiries SipInviteServerTxn.fsm rprSent [500, 1000, 2000, 4000] s ∧
        s.txn.currentDuration = 8000 := by
      refine ⟨_, .expired ⟨3, .timerG⟩ (.expired ⟨2, .timerG⟩ (.expired ⟨1, .timerG⟩
        (.expired ⟨0, .timerG⟩ .sent ?_) ?_) ?_) ?_, ?_⟩ <;> decide
    obtain ⟨s, hexpiries, hcurrent⟩ := hrun
    have harmed := ((h.runs _ _ hexpiries).1.armed (.inr (by decide))).1
    rw [hcurrent] at harmed
    exact absurd harmed (by decide)
  · intro h
    have hrun : ∃ s, Expiries SipInviteClientTxn.fsm longInviteSent [2 ^ 31 - 2] s ∧
        s.txn.currentDuration = 2 ^ 32 - 4 := by
      refine ⟨_, .expired ⟨0, .timerA⟩ .sent ?_, ?_⟩ <;> decide
    obtain ⟨s, hexpiries, hcurrent⟩ := hrun
    have harmed := ((h.runs _ _ hexpiries).1.armed (.inr (by decide))).1
    rw [hcurrent] at harmed
    exact absurd harmed (by decide)

end Example

end ImsStack.Txn
