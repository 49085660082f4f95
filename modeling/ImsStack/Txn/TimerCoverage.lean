import ImsStack.Txn.InviteTimers
import ImsStack.Txn.NonInviteTimers

/-!
Timer coverage of the four transaction state machines: no run of a transaction
leaves it waiting for a timer that is not armed, and no expiry is lost.
-/

namespace ImsStack.Txn

open TransitionSystem

/-- Timer coverage in every state a run of one of the four machines reaches,
over any transport and with any strictly positive timer values. -/
theorem timerCoverage :
    (∀ s, (txnSystem SipInviteClientTxn.fsm .inviteClient .idle).Reachable s →
      TimerCovered SipInviteClientTxn.fsm SipInviteClientTxn.leavesOnlyByTime
        (fun state event => SipInviteClientTxn.table state event ≠ .handleInvalidStateEvent) s) ∧
    (∀ s, (txnSystem SipInviteServerTxn.fsm .inviteServer .idle).Reachable s →
      TimerCovered SipInviteServerTxn.fsm SipInviteServerTxn.leavesOnlyByTime
        (fun state event => SipInviteServerTxn.table state event ≠ .handleInvalidStateEvent) s) ∧
    (∀ s, (txnSystem SipNonInviteClientTxn.fsm .nonInviteClient .idle).Reachable s →
      TimerCovered SipNonInviteClientTxn.fsm SipNonInviteClientTxn.leavesOnlyByTime
        (fun state event => SipNonInviteClientTxn.table state event ≠ .handleInvalidStateEvent)
        s) ∧
    (∀ s, (txnSystem SipNonInviteServerTxn.fsm .nonInviteServer .idle).Reachable s →
      TimerCovered SipNonInviteServerTxn.fsm SipNonInviteServerTxn.leavesOnlyByTime
        (fun state event => SipNonInviteServerTxn.table state event ≠ .handleInvalidStateEvent)
        s) := by
  refine ⟨fun s hs => ?_, fun s hs => ?_, fun s hs => ?_, fun s hs => ?_⟩
  · refine SipInviteClientTxn.timerDiscipline.timerCovered_of_reachable (fun state h => ?_) hs
    cases state <;> simp_all [SipInviteClientTxn.leavesOnlyByTime, SipInviteClientTxn.slots]
  · refine SipInviteServerTxn.timerDiscipline.timerCovered_of_reachable (fun state h => ?_) hs
    cases state <;> simp_all [SipInviteServerTxn.leavesOnlyByTime, SipInviteServerTxn.slots]
  · refine SipNonInviteClientTxn.timerDiscipline.timerCovered_of_reachable (fun state h => ?_) hs
    cases state <;>
      simp_all [SipNonInviteClientTxn.leavesOnlyByTime, SipNonInviteClientTxn.slots]
  · refine SipNonInviteServerTxn.timerDiscipline.timerCovered_of_reachable (fun state h => ?_) hs
    cases state <;>
      simp_all [SipNonInviteServerTxn.leavesOnlyByTime, SipNonInviteServerTxn.slots]

section Example

def exampleKey (method : SipChars) (txnType : TxnType) : SipTxnKey where
  rSeqNum := 0
  viaBranchParam := some ['z', '9']
  viaHost := some ['h']
  method := some method
  cSeqNum := 1
  toTag := none
  fromTag := some ['f']
  callId := some ['c']
  respCode := 0
  txnType := some txnType
  rules := ⟨true, true, false⟩

def exampleValues : SipTimerValues := ⟨fun _ => 500#32⟩

def exampleData (method : SipChars) (txnType : TxnType) : SipTxnFsmData where
  sipMsgIn := ⟨exampleKey method txnType, 0, none, none⟩
  transpProtocol := .udp
  poolAccepts := true
  inviteTxnFetched := false

theorem exampleValues_positive : exampleValues.Positive := by
  intro timer
  change 0 < (500#32).toInt
  decide

def exampleStack {σ : Type} (idle : σ) (method : SipChars) (txnType : TxnType) : SipStack σ :=
  newStack (newTxn idle (exampleKey method txnType) exampleValues.toTxnTimerValues) [] 0

theorem reachable_exampleStack {σ ε : Type} (fsm : TxnFsm σ ε) (idle : σ) (method : SipChars)
    (txnType : TxnType) (event : ε) (hevent : fsm.isTimeout event = false) :
    (txnSystem fsm txnType idle).Reachable
      (fsm.invokeFsm event (exampleStack idle method txnType)).stack :=
  .step (.invokeFsm event) (.init ⟨_, _, _, _, exampleValues_positive, rfl⟩)
    (.invokeFsm _ event hevent)

/-- The four machines after the message that opens the transaction, over UDP: the
two clients wait for timer A and timer E. -/
theorem timerCoverage_opened :
    (let s := (SipInviteClientTxn.fsm.invokeFsm
        (.sendInvReq (exampleData methodInvite .inviteClient))
        (exampleStack .idle methodInvite .inviteClient)).stack
     s.txn.txnState = .calling ∧ s.runningTimers = [⟨0, .timerA⟩] ∧
      TimerCovered SipInviteClientTxn.fsm SipInviteClientTxn.leavesOnlyByTime
        (fun state event => SipInviteClientTxn.table state event ≠ .handleInvalidStateEvent) s) ∧
    (let s := (SipInviteServerTxn.fsm.invokeFsm
        (.recvInvReq (exampleData methodInvite .inviteServer))
        (exampleStack .idle methodInvite .inviteServer)).stack
     s.txn.txnState = .proceeding ∧ s.runningTimers = [] ∧
      TimerCovered SipInviteServerTxn.fsm SipInviteServerTxn.leavesOnlyByTime
        (fun state event => SipInviteServerTxn.table state event ≠ .handleInvalidStateEvent) s) ∧
    (let s := (SipNonInviteClientTxn.fsm.invokeFsm
        (.sendNonInvReq (exampleData methodCancel .nonInviteClient))
        (exampleStack .idle methodCancel .nonInviteClient)).stack
     s.txn.txnState = .trying ∧ s.runningTimers = [⟨0, .timerE⟩] ∧
      TimerCovered SipNonInviteClientTxn.fsm SipNonInviteClientTxn.leavesOnlyByTime
        (fun state event => SipNonInviteClientTxn.table state event ≠ .handleInvalidStateEvent)
        s) ∧
    (let s := (SipNonInviteServerTxn.fsm.invokeFsm
        (.recvNonInvReq (exampleData methodCancel .nonInviteServer))
        (exampleStack .idle methodCancel .nonInviteServer)).stack
     s.txn.txnState = .trying ∧ s.runningTimers = [] ∧
      TimerCovered SipNonInviteServerTxn.fsm SipNonInviteServerTxn.leavesOnlyByTime
        (fun state event => SipNonInviteServerTxn.table state event ≠ .handleInvalidStateEvent)
        s) := by
  refine ⟨⟨by decide, by decide, ?_⟩, ⟨by decide, by decide, ?_⟩, ⟨by decide, by decide, ?_⟩,
    ⟨by decide, by decide, ?_⟩⟩
  · exact timerCoverage.1 _ (reachable_exampleStack _ _ _ _ _ rfl)
  · exact timerCoverage.2.1 _ (reachable_exampleStack _ _ _ _ _ rfl)
  · exact timerCoverage.2.2.1 _ (reachable_exampleStack _ _ _ _ _ rfl)
  · exact timerCoverage.2.2.2 _ (reachable_exampleStack _ _ _ _ _ rfl)

end Example

end ImsStack.Txn
