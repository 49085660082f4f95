import ImsStack.Call.PendingLoop

/-!
What happens to a call from outside: operations of its states, session refreshes, the
timer that delays updates, and the runs of the pending operations that were posted.
-/

namespace ImsStack.Call

inductive CallEvent where
  /-- An operation that ESTABLISHED may put off arrives there. -/
  | operation (p : PendingOperation)
  /-- Any other operation of the current state: what it puts off, whether it starts
  `TIMER_DELAY_UPDATE_AFTER_CONNECTED`, and the state it returns. -/
  | stateOperation (putOff : List PendingOperation) (startsDelay : Bool)
      (eNextState : CallStateName)
  | refreshStarted
  /-- `Refresh_NotifyCompleted`, which a provisional response, a challenge and a refresh
  that is sent once more leave in progress. -/
  | refreshNotified (isStillInProgress : Bool)
  | delayExpired
  /-- The message of a posted run is handled. -/
  | postedRun
  /-- What the pending operations will find changes. -/
  | answersChange (answers : PendingOperation → Answers)

namespace MtcCall

def pushAll (c : MtcCall) (putOff : List PendingOperation) : MtcCall :=
  { c with pendingOperations := c.pendingOperations ++ putOff }

def startDelay (c : MtcCall) (startsDelay : Bool) : MtcCall :=
  { c with
    isInUpdateAfterConnectedDelay := c.isInUpdateAfterConnectedDelay || startsDelay }

/-- `RunAsyncOperation` of ESTABLISHED; the other states do nothing. -/
def postRunIfEstablished (c : MtcCall) : MtcCall :=
  if c.state = .established then c.postRun else c

def takePostedRun (c : MtcCall) : MtcCall := { c with postedRuns := c.postedRuns - 1 }

/-- The event can happen.  ESTABLISHED puts nothing off in its other operations, and the
operations of TERMINATING stay there. -/
def Enabled (c : MtcCall) : CallEvent → Prop
  | .operation _ => c.state = .established
  | .stateOperation putOff startsDelay eNextState =>
    (c.state = .established → putOff = [] ∧ startsDelay = false) ∧
      (c.state = .terminating → eNextState = .terminating)
  | .refreshNotified _ => c.isSessionRefreshInProgress = true
  | .delayExpired => c.isInUpdateAfterConnectedDelay = true
  | .postedRun => 0 < c.postedRuns
  | .refreshStarted | .answersChange _ => True

/-- What the event puts off. -/
def putOffBy (c : MtcCall) : CallEvent → List PendingOperation
  | .operation p => (EstablishedState.run c.shouldPendOperation p).putOff.toList
  | .stateOperation putOff _ _ => putOff
  | _ => []

/-- The call handles an event; `none` when the fuel does not suffice. -/
def handle (fuel : Nat) (c : MtcCall) : CallEvent → Option (MtcCall × List Notice)
  | .operation p =>
    (c.accept (EstablishedState.run c.shouldPendOperation p)).transitToState fuel
      (EstablishedState.run c.shouldPendOperation p).next
  | .stateOperation putOff startsDelay eNextState =>
    ((c.pushAll putOff).startDelay startsDelay).transitToState fuel eNextState
  | .refreshStarted => some ({ c with isSessionRefreshInProgress := true }, [])
  | .refreshNotified isStillInProgress =>
    some ({ c.postRunIfEstablished with isSessionRefreshInProgress := isStillInProgress }, [])
  | .delayExpired =>
    some ({ c.postRunIfEstablished with isInUpdateAfterConnectedDelay := false }, [])
  | .postedRun => c.takePostedRun.runPendingOperationIfPossible fuel
  | .answersChange answers =>
    some
      ({ c with
          pendingOperations := c.pendingOperations.map fun p => { p with answers := answers p } },
        [])

/-- A posted run finds no operation that puts itself off. -/
def Orderly (c : MtcCall) : CallEvent → Prop
  | .postedRun => c.KeepsOrder
  | _ => True

theorem postRunIfEstablished_state (c : MtcCall) : c.postRunIfEstablished.state = c.state := by
  unfold postRunIfEstablished
  split <;> rfl

theorem postRunIfEstablished_pendingOperations (c : MtcCall) :
    c.postRunIfEstablished.pendingOperations = c.pendingOperations := by
  unfold postRunIfEstablished
  split <;> rfl

theorem postedRuns_pos_of_established {c : MtcCall}
    (hstate : c.postRunIfEstablished.state = .established) :
    0 < c.postRunIfEstablished.postedRuns := by
  unfold postRunIfEstablished at hstate ⊢
  split at hstate
  next hest =>
    rw [if_pos hest]
    exact Nat.succ_pos _
  next hnot => exact absurd hstate hnot

/-- An event whose posted run finds no operation that puts itself off is handled. -/
theorem Orderly.exists_handle {c : MtcCall} {e : CallEvent} (horderly : c.Orderly e) :
    ∃ fuel r, c.handle fuel e = some r := by
  cases e with
  | operation p =>
      obtain ⟨fuel, htransit⟩ := exists_transitToState
        (c.accept (EstablishedState.run c.shouldPendOperation p))
        (EstablishedState.run c.shouldPendOperation p).next
      exact ⟨fuel, _, htransit⟩
  | stateOperation putOff startsDelay eNextState =>
      obtain ⟨fuel, htransit⟩ := exists_transitToState
        ((c.pushAll putOff).startDelay startsDelay) eNextState
      exact ⟨fuel, _, htransit⟩
  | postedRun =>
      have hkeeps : c.takePostedRun.KeepsOrder := horderly
      obtain ⟨fuel, hrun⟩ := hkeeps.run
      exact ⟨fuel, _, hrun⟩
  | refreshStarted => exact ⟨0, _, rfl⟩
  | refreshNotified isStillInProgress => exact ⟨0, _, rfl⟩
  | delayExpired => exact ⟨0, _, rfl⟩
  | answersChange answers => exact ⟨0, _, rfl⟩

end MtcCall

end ImsStack.Call
