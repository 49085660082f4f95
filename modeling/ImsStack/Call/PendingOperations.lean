import ImsStack.Call.CallEvents
import ImsStack.Library.TransitionSystem

/-!
The pending operations of a call over whole runs: in what order they are executed, and
what will run those that are left in the list.
-/

namespace ImsStack.Call

open TransitionSystem

/-- A call with the operations put off so far and those taken from the list and run. -/
structure CallHistory where
  call : MtcCall
  putOff : List PendingOperation
  executed : List PendingOperation
  deriving DecidableEq, Repr

namespace CallHistory

def new : CallHistory := ⟨MtcCall.new, [], []⟩

/-- An event has put off `putOff`, and `result` is what it comes to. -/
def after (h : CallHistory) (putOff : List PendingOperation)
    (result : MtcCall × List Notice) : CallHistory :=
  ⟨result.1, h.putOff ++ putOff, h.executed ++ operationsRun result.2⟩

/-- A call from its creation. -/
def calls : System CallHistory CallEvent where
  Init h := h = .new
  Step h e h' := h.call.Enabled e ∧ ∃ fuel result, h.call.handle fuel e = some result ∧
    h' = h.after (h.call.putOffBy e) result

end CallHistory

namespace MtcCall

/-- `RunPendingOperationIfPossible` returns, and has run the first operations of the list
once each, in their order, leaving the others as they were. -/
def DrainsInOrder (c : MtcCall) : Prop :=
  ∃ fuel c' notices, c.runPendingOperationIfPossible fuel = some (c', notices) ∧
    c.pendingOperations = operationsRun notices ++ c'.pendingOperations

/-- Whatever rests in ESTABLISHED with pending operations has something that will run
them. -/
def WillRunLater (c : MtcCall) : Prop :=
  c.state = .established → c.pendingOperations ≠ [] →
    0 < c.postedRuns ∨ c.isInUpdateAfterConnectedDelay = true ∨
      c.isSessionRefreshInProgress = true

theorem ranInOrder_pendingOperations (c : MtcCall) :
    operationsRun c.ranInOrder.2 ++ c.ranInOrder.1.pendingOperations =
      c.pendingOperations := by
  unfold ranInOrder
  split
  · exact operationsRun_drained c c.pendingOperations
  · rfl

theorem drainsInOrder_iff (c : MtcCall) : c.DrainsInOrder ↔ c.KeepsOrder := by
  constructor
  · rintro ⟨fuel, c', notices, hrun, horder⟩ hstate hdelay hrefresh
    apply (length_le_of_runPendingOperationIfPossible hstate hdelay hrefresh hrun).2
    exact Nat.le_of_eq (by rw [horder, List.length_append])
  · intro hkeeps
    obtain ⟨fuel, hrun⟩ := hkeeps.run
    exact ⟨fuel, c.ranInOrder.1, c.ranInOrder.2, hrun, (ranInOrder_pendingOperations c).symm⟩

theorem transited_pendingOperations (c : MtcCall) (eState : CallStateName) :
    operationsRun (c.transited eState).2 ++ (c.transited eState).1.pendingOperations =
      c.pendingOperations := by
  unfold transited
  split
  · rfl
  · split
    · split
      · rfl
      · show operationsRun (.entered eState :: _ ++ [.reported eState]) ++ _ = _
        rw [operationsRun_transition]
        exact operationsRun_drained (c.replaceState eState) c.pendingOperations
    · rfl

theorem shouldPendOperation_iff (c : MtcCall) :
    c.shouldPendOperation = true ↔
      c.isInUpdateAfterConnectedDelay = true ∨ c.isSessionRefreshInProgress = true := by
  unfold shouldPendOperation
  rw [Bool.or_eq_true, Or.comm]

theorem WillRunLater.of_shouldPend {c : MtcCall} (hpend : c.shouldPendOperation = true) :
    c.WillRunLater := by
  intro _ _
  exact Or.inr ((shouldPendOperation_iff c).mp hpend)

theorem WillRunLater.of_drained (c : MtcCall) (pending : List PendingOperation) :
    (c.drained pending).1.WillRunLater := by
  intro hstate hpending
  rcases drained_pendingOperations c pending with hnil | hleft
  · exact absurd hnil hpending
  · exact absurd hstate hleft

theorem WillRunLater.transited {c : MtcCall} {eState : CallStateName}
    (hlater : c.state = eState → c.WillRunLater) : (c.transited eState).1.WillRunLater := by
  unfold MtcCall.transited
  split
  next hsame => exact hlater hsame
  next hne =>
    split
    next hest =>
      split
      next hpend => exact .of_shouldPend hpend
      next => exact .of_drained _ _
    next hest =>
      intro hstate
      exact absurd hstate hest

theorem WillRunLater.ranInOrder (c : MtcCall) : c.ranInOrder.1.WillRunLater := by
  unfold MtcCall.ranInOrder
  split
  next => exact .of_drained _ _
  next hnot =>
    intro hstate _
    right
    left
    cases hdelay : c.isInUpdateAfterConnectedDelay with
    | true => rfl
    | false => exact absurd ⟨hstate, hdelay⟩ hnot

/-- What an event puts off goes to the end of the list, and what it runs is taken from
the front. -/
theorem handle_pendingOperations {c : MtcCall} {e : CallEvent} (horderly : c.Orderly e)
    {fuel : Nat} {r : MtcCall × List Notice} (hhandle : c.handle fuel e = some r) :
    (operationsRun r.2 ++ r.1.pendingOperations).map PendingOperation.operation =
      (c.pendingOperations ++ c.putOffBy e).map PendingOperation.operation := by
  cases e with
  | operation p =>
      rw [eq_transited hhandle, transited_pendingOperations, accept_pendingOperations]
      rfl
  | stateOperation putOff startsDelay eNextState =>
      rw [eq_transited hhandle, transited_pendingOperations]
      rfl
  | postedRun =>
      have hkeeps : c.takePostedRun.KeepsOrder := horderly
      rw [hkeeps.eq_ranInOrder hhandle, ranInOrder_pendingOperations]
      exact congrArg _ (List.append_nil _).symm
  | refreshStarted =>
      cases hhandle
      exact congrArg _ (List.append_nil _).symm
  | refreshNotified isStillInProgress =>
      cases hhandle
      show c.postRunIfEstablished.pendingOperations.map _ = _
      rw [postRunIfEstablished_pendingOperations]
      exact congrArg _ (List.append_nil _).symm
  | delayExpired =>
      cases hhandle
      show c.postRunIfEstablished.pendingOperations.map _ = _
      rw [postRunIfEstablished_pendingOperations]
      exact congrArg _ (List.append_nil _).symm
  | answersChange answers =>
      cases hhandle
      show (c.pendingOperations.map _).map _ = (c.pendingOperations ++ []).map _
      rw [List.map_map, List.append_nil]
      rfl

theorem WillRunLater.handle {c : MtcCall} {e : CallEvent} (hlater : c.WillRunLater)
    (henabled : c.Enabled e) (horderly : c.Orderly e) {fuel : Nat}
    {r : MtcCall × List Notice} (hhandle : c.handle fuel e = some r) : r.1.WillRunLater := by
  cases e with
  | operation p =>
      rw [eq_transited hhandle]
      apply WillRunLater.transited
      intro _
      cases hpend : c.shouldPendOperation with
      | true =>
          apply WillRunLater.of_shouldPend
          rw [accept_shouldPendOperation]
          exact hpend
      | false =>
          rw [accept_of_none _ (EstablishedState.run_false_putOff _)]
          exact hlater
  | stateOperation putOff startsDelay eNextState =>
      rw [eq_transited hhandle]
      apply WillRunLater.transited
      intro hsame hstate hpending
      obtain ⟨rfl, rfl⟩ := henabled.1 hstate
      simp only [startDelay, pushAll, List.append_nil, Bool.or_false] at hpending ⊢
      exact hlater hstate hpending
  | postedRun =>
      have hkeeps : c.takePostedRun.KeepsOrder := horderly
      rw [hkeeps.eq_ranInOrder hhandle]
      exact .ranInOrder _
  | refreshStarted =>
      cases hhandle
      exact fun _ _ => Or.inr (Or.inr rfl)
  | refreshNotified isStillInProgress =>
      cases hhandle
      exact fun hstate _ => Or.inl (postedRuns_pos_of_established hstate)
  | delayExpired =>
      cases hhandle
      exact fun hstate _ => Or.inl (postedRuns_pos_of_established hstate)
  | answersChange answers =>
      cases hhandle
      intro hstate hpending
      apply hlater hstate
      intro hnil
      apply hpending
      show c.pendingOperations.map _ = []
      rw [hnil]
      rfl

end MtcCall

namespace CallHistory

/-- The operations run are the first ones put off, in their order; the others are still in
the list. -/
def InOrder (h : CallHistory) : Prop :=
  h.putOff.map PendingOperation.operation =
    (h.executed ++ h.call.pendingOperations).map PendingOperation.operation

/-- A posted run finds no operation that puts itself off. -/
def Orderly (h : CallHistory) (e : CallEvent) : Prop := h.call.Orderly e

theorem InOrder.after {h : CallHistory} {putOff : List PendingOperation}
    {result : MtcCall × List Notice} (horder : h.InOrder)
    (hran : (operationsRun result.2 ++ result.1.pendingOperations).map
        PendingOperation.operation =
      (h.call.pendingOperations ++ putOff).map PendingOperation.operation) :
    (h.after putOff result).InOrder := by
  unfold InOrder
  show (h.putOff ++ putOff).map PendingOperation.operation =
    ((h.executed ++ operationsRun result.2) ++ result.1.pendingOperations).map _
  rw [List.append_assoc, List.map_append, List.map_append, hran, horder, List.map_append,
    List.map_append, List.append_assoc]

theorem inOrder_willRunLater {h : CallHistory} (hh : (calls.restrict Orderly).Reachable h) :
    h.InOrder ∧ h.call.WillRunLater := by
  apply System.Reachable.restrict_invariant (I := fun h => h.InOrder ∧ h.call.WillRunLater) _ _
    hh
  · rintro _ rfl
    exact ⟨rfl, fun _ hpending => absurd rfl hpending⟩
  · rintro h e _ ⟨horder, hlater⟩ horderly ⟨henabled, fuel, result, hhandle, rfl⟩
    constructor
    · exact horder.after (MtcCall.handle_pendingOperations horderly hhandle)
    · exact hlater.handle henabled horderly hhandle

/-- The loop drains the list in order exactly when no operation puts itself off in it;
in a run where every posted run is so, operations are executed in the order in which they
were put off, none is lost, and something will run those that are left. -/
theorem pendingOperations_drained {h : CallHistory}
    (hh : (calls.restrict Orderly).Reachable h) :
    (∀ c : MtcCall, c.DrainsInOrder ↔ c.KeepsOrder) ∧ h.InOrder ∧ h.call.WillRunLater ∧
      ∀ e, h.Orderly e → ∃ fuel r, h.call.handle fuel e = some r :=
  ⟨MtcCall.drainsInOrder_iff, (inOrder_willRunLater hh).1, (inOrder_willRunLater hh).2,
    fun _ horderly => MtcCall.Orderly.exists_handle horderly⟩

/-! ### Runs -/

/-- A hold that can be sent. -/
def holdOperation : PendingOperation where
  operation := .hold
  answers :=
    { callType := .voip
      isAudioInactive := false
      isValidDirection := true
      sendsReinviteOnRatChange := false
      hasSession := true
      isUpdateSent := true
      isUpdateLeftOpen := false }

/-- A call that has reached ESTABLISHED and put nothing off. -/
def establishedCall (isSessionRefreshInProgress : Bool) : CallHistory where
  call :=
    { state := .established
      pendingOperations := []
      isSessionRefreshInProgress := isSessionRefreshInProgress
      isInUpdateAfterConnectedDelay := false
      postedRuns := 0 }
  putOff := []
  executed := []

/-- A hold that has been put off, in a call with `postedRuns` runs outstanding. -/
def holdPutOff (isSessionRefreshInProgress : Bool) (postedRuns : Nat) : CallHistory where
  call :=
    { state := .established
      pendingOperations := [holdOperation]
      isSessionRefreshInProgress := isSessionRefreshInProgress
      isInUpdateAfterConnectedDelay := false
      postedRuns := postedRuns }
  putOff := [holdOperation]
  executed := []

theorem establishedCall_reachable : (calls.restrict Orderly).Reachable (establishedCall false) := by
  apply System.Reachable.step (.stateOperation [] false .established) (.init rfl)
  constructor
  · trivial
  · refine ⟨⟨?_, ?_⟩, 2, _, rfl, rfl⟩
    · rintro ⟨⟩
    · rintro ⟨⟩

theorem holdPutOff_reachable (isStillInProgress : Bool) :
    (calls.restrict Orderly).Reachable (holdPutOff isStillInProgress 1) := by
  have hrefresh : (calls.restrict Orderly).Reachable (establishedCall true) :=
    .step .refreshStarted establishedCall_reachable ⟨trivial, trivial, 0, _, rfl, rfl⟩
  have hhold : (calls.restrict Orderly).Reachable (holdPutOff true 0) :=
    .step (.operation holdOperation) hrefresh ⟨trivial, rfl, 1, _, rfl, rfl⟩
  exact .step (.refreshNotified isStillInProgress) hhold
    ⟨trivial, rfl, 0, _, rfl, rfl⟩

/-- The refresh has ended: the posted run executes the hold. -/
theorem pendingOperations_drained_hold :
    ∃ h : CallHistory, h.executed = [holdOperation] ∧ h.InOrder ∧ h.call.WillRunLater := by
  have hran : ∃ h : CallHistory, h.executed = [holdOperation] ∧
      (calls.restrict Orderly).Reachable h := by
    refine ⟨_, ?_, .step .postedRun (holdPutOff_reachable false)
      ⟨fun _ _ hrefresh => absurd hrefresh Bool.false_ne_true, Nat.one_pos, 2, _, rfl, rfl⟩⟩
    rfl
  obtain ⟨h, hexecuted, hh⟩ := hran
  obtain ⟨-, horder, hlater, -⟩ := pendingOperations_drained hh
  exact ⟨h, hexecuted, horder, hlater⟩

/-- A provisional response to the refresh posts the run while the refresh is still in
progress: the run takes the hold from the list and the hold puts itself back, without
end. -/
theorem pendingOperations_notDrained :
    ∃ h, calls.Reachable h ∧ 0 < h.call.postedRuns ∧ h.call.state = .established ∧
      (∀ fuel, h.call.handle fuel .postedRun = none) ∧ ¬h.call.DrainsInOrder := by
  refine ⟨holdPutOff true 1, (holdPutOff_reachable true).of_restrict, by decide, rfl, ?_, ?_⟩
  · intro fuel
    exact MtcCall.runPendingOperationIfPossible_none fuel rfl rfl rfl (by decide) (by decide)
  · rw [MtcCall.drainsInOrder_iff]
    decide

end CallHistory

end ImsStack.Call
