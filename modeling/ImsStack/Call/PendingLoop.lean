import ImsStack.Call.MtcCall

/-!
The loop of `RunPendingOperationIfPossible`.  An operation that leaves ESTABLISHED ends
it, and one that puts itself off comes back to the end of the list it is taken from.
-/

namespace ImsStack.Call

namespace PendingOperation

/-- The operation asks `ShouldPendOperation` before it does anything else. -/
def asksToPend (p : PendingOperation) : Bool :=
  match p.operation with
  | .hold | .resume | .update => true
  | .onIpcanChanged => p.answers.sendsReinviteOnRatChange
  | .onReceivingMediaDataFailed .audio => false
  | .onReceivingMediaDataFailed .video => decide (p.answers.callType = .vt)
  | .onReceivingMediaDataFailed .text => decide (p.answers.callType = .rtt)
  | .onVideoLowestBitRate =>
    decide (p.answers.callType = .vt) || decide (p.answers.callType = .videoRtt)
  | .qosReserveFailed .modify => !decide (p.answers.callType = .voip)
  | .qosReserveFailed _ | .onSrvccRecovered | .sessionUpdateReceived => false

/-- The operation leaves ESTABLISHED where it is not put off. -/
def leavesEstablished (p : PendingOperation) : Bool :=
  match p.operation with
  | .hold =>
    !p.answers.isAudioInactive && p.answers.isValidDirection && p.answers.isUpdateSent
  | .resume => p.answers.isValidDirection && p.answers.isUpdateSent
  | .update => p.answers.isUpdateSent
  | .onIpcanChanged | .onReceivingMediaDataFailed .video | .onReceivingMediaDataFailed .text
  | .onVideoLowestBitRate | .qosReserveFailed .modify =>
    p.asksToPend && p.answers.isUpdateSent
  | .onReceivingMediaDataFailed .audio | .qosReserveFailed .release => true
  | .qosReserveFailed .maintain => false
  | .onSrvccRecovered => p.answers.hasSession && p.answers.isUpdateSent
  | .sessionUpdateReceived => p.answers.isUpdateLeftOpen

end PendingOperation

namespace EstablishedState

open PendingOperation

theorem handleUpdate_putOff (answers : Answers) : (handleUpdate answers).putOff = none := by
  unfold handleUpdate
  split <;> rfl

theorem handleUpdate_next (answers : Answers) :
    (handleUpdate answers).next ≠ .established ↔ answers.isUpdateSent = true := by
  unfold handleUpdate stay
  cases answers.isUpdateSent <;> simp

theorem run_of_asksToPend {p : PendingOperation} (hasks : p.asksToPend = true) :
    ∃ q, q.asksToPend = true ∧ run true p = ⟨.established, some q⟩ := by
  obtain ⟨operation, answers⟩ := p
  cases operation with
  | hold => exact ⟨_, hasks, rfl⟩
  | resume => exact ⟨_, hasks, rfl⟩
  | update => exact ⟨_, hasks, rfl⟩
  | onIpcanChanged =>
      replace hasks : answers.sendsReinviteOnRatChange = true := hasks
      refine ⟨⟨.onIpcanChanged, answers⟩, hasks, ?_⟩
      simp [run, onIpcanChanged, pendOr, hasks]
  | onReceivingMediaDataFailed eMediaType =>
      refine ⟨⟨.update, answers⟩, rfl, ?_⟩
      cases eMediaType <;>
        simp_all [run, onReceivingMediaDataFailed, update, pendOr, asksToPend]
  | onVideoLowestBitRate =>
      refine ⟨⟨.update, answers⟩, rfl, ?_⟩
      simp_all [run, onVideoLowestBitRate, update, pendOr, asksToPend]
  | qosReserveFailed eNextAction =>
      refine ⟨⟨.update, answers⟩, rfl, ?_⟩
      cases eNextAction <;> simp_all [run, qosReserveFailed, update, pendOr, asksToPend]
  | onSrvccRecovered => simp [asksToPend] at hasks
  | sessionUpdateReceived => simp [asksToPend] at hasks

theorem run_of_not_asksToPend {p : PendingOperation} (hasks : p.asksToPend = false)
    (shouldPend : Bool) : run shouldPend p = run false p := by
  obtain ⟨operation, answers⟩ := p
  cases operation with
  | onIpcanChanged =>
      replace hasks : answers.sendsReinviteOnRatChange = false := hasks
      simp [run, onIpcanChanged, hasks]
  | onReceivingMediaDataFailed eMediaType =>
      cases eMediaType <;> simp_all [run, onReceivingMediaDataFailed, asksToPend]
  | onVideoLowestBitRate => simp_all [run, onVideoLowestBitRate, asksToPend]
  | qosReserveFailed eNextAction =>
      cases eNextAction <;> simp_all [run, qosReserveFailed, asksToPend]
  | hold => simp [asksToPend] at hasks
  | resume => simp [asksToPend] at hasks
  | update => simp [asksToPend] at hasks
  | onSrvccRecovered => rfl
  | sessionUpdateReceived => rfl

theorem run_false_putOff (p : PendingOperation) : (run false p).putOff = none := by
  obtain ⟨operation, answers⟩ := p
  cases operation with
  | onReceivingMediaDataFailed eMediaType =>
      cases eMediaType <;>
        simp only [run, onReceivingMediaDataFailed, update, pendOr] <;>
        grind [handleUpdate_putOff, stay]
  | qosReserveFailed eNextAction =>
      cases eNextAction <;> simp only [run, qosReserveFailed, update, pendOr] <;>
        grind [handleUpdate_putOff, stay]
  | _ =>
      simp only [run, hold, resume, update, onIpcanChanged, onVideoLowestBitRate,
        sendUpdateBySrvcc, sessionUpdateReceived, pendOr]
      grind [handleUpdate_putOff, stay]

theorem run_false_next (p : PendingOperation) :
    (run false p).next ≠ .established ↔ p.leavesEstablished = true := by
  obtain ⟨operation, answers⟩ := p
  have hupdate := handleUpdate_next answers
  cases operation with
  | onReceivingMediaDataFailed eMediaType =>
      cases eMediaType <;>
        simp only [run, onReceivingMediaDataFailed, update, pendOr, leavesEstablished,
          asksToPend] <;>
        grind [stay]
  | qosReserveFailed eNextAction =>
      cases eNextAction <;>
        simp only [run, qosReserveFailed, update, pendOr, leavesEstablished, asksToPend] <;>
        grind [stay]
  | _ =>
      simp only [run, hold, resume, update, onIpcanChanged, onVideoLowestBitRate,
        sendUpdateBySrvcc, sessionUpdateReceived, pendOr, leavesEstablished, asksToPend]
      grind [stay]

theorem run_false_next_of_not_leaves {p : PendingOperation}
    (hleaves : p.leavesEstablished = false) : (run false p).next = .established := by
  apply not_not.mp
  intro hne
  rw [(run_false_next p).mp hne] at hleaves
  cases hleaves

end EstablishedState

namespace Notice

/-- The operation run. -/
def operation? : Notice → Option PendingOperation
  | .ran p => some p
  | .entered _ | .reported _ => none

def enteredState? : Notice → Option CallStateName
  | .entered eState => some eState
  | .ran _ | .reported _ => none

def reportedState? : Notice → Option CallStateName
  | .reported eState => some eState
  | .ran _ | .entered _ => none

end Notice

def operationsRun (notices : List Notice) : List PendingOperation :=
  notices.filterMap Notice.operation?

def statesEntered (notices : List Notice) : List CallStateName :=
  notices.filterMap Notice.enteredState?

def statesReported (notices : List Notice) : List CallStateName :=
  notices.filterMap Notice.reportedState?

theorem operationsRun_transition (eState eState' : CallStateName) (notices : List Notice) :
    operationsRun (.entered eState :: notices ++ [.reported eState']) =
      operationsRun notices := by
  show (notices ++ [Notice.reported eState']).filterMap Notice.operation? = _
  rw [List.filterMap_append]
  exact List.append_nil _

/-- No operation is put off before one leaves ESTABLISHED. -/
def keepsOrder : List PendingOperation → Bool
  | [] => true
  | p :: rest => !p.asksToPend && (p.leavesEstablished || keepsOrder rest)

namespace MtcCall

open EstablishedState

/-- What the loop comes to where no operation puts itself off. -/
def drained (c : MtcCall) : List PendingOperation → MtcCall × List Notice
  | [] => ({ c with pendingOperations := [] }, [])
  | p :: rest =>
    if p.leavesEstablished then
      ({ c with pendingOperations := rest }.replaceState (run false p).next,
        [.ran p, .entered (run false p).next, .reported (run false p).next])
    else ((drained c rest).1, .ran p :: (drained c rest).2)

theorem drained_leaves (c : MtcCall) {p : PendingOperation} (rest : List PendingOperation)
    (hleaves : p.leavesEstablished = true) :
    c.drained (p :: rest) =
      ({ c with pendingOperations := rest }.replaceState (run false p).next,
        [.ran p, .entered (run false p).next, .reported (run false p).next]) := by
  rw [drained, if_pos hleaves]

theorem drained_stays (c : MtcCall) {p : PendingOperation} (rest : List PendingOperation)
    (hleaves : p.leavesEstablished = false) :
    c.drained (p :: rest) = ((c.drained rest).1, .ran p :: (c.drained rest).2) := by
  rw [drained, hleaves]
  rfl

theorem drained_with_pendingOperations (c : MtcCall) (old pending : List PendingOperation) :
    { c with pendingOperations := old }.drained pending = c.drained pending := by
  induction pending with
  | nil => rfl
  | cons p rest ih =>
      unfold drained
      rw [ih]

theorem transitToState_self (c : MtcCall) (fuel : Nat) :
    c.transitToState (fuel + 1) c.state = some (c, []) := by
  simp [transitToState]

theorem transitToState_of_ne {c : MtcCall} {eState : CallStateName}
    (hstate : c.state ≠ eState) (hnot : eState ≠ .established) (fuel : Nat) :
    c.transitToState (fuel + 1) eState =
      some (c.replaceState eState, [.entered eState, .reported eState]) := by
  simp [transitToState, hstate, hnot]

@[simp]
theorem replaceState_shouldPendOperation (c : MtcCall) (eState : CallStateName) :
    (c.replaceState eState).shouldPendOperation = c.shouldPendOperation := rfl

theorem transitToState_established_of_pend {c : MtcCall} (hstate : c.state ≠ .established)
    (hpend : c.shouldPendOperation = true) (fuel : Nat) :
    c.transitToState (fuel + 1) .established =
      some ((c.replaceState .established).postRun,
        [.entered .established, .reported .established]) := by
  simp [transitToState, hstate, hpend]

theorem transitToState_established {c : MtcCall} (hstate : c.state ≠ .established)
    (hpend : c.shouldPendOperation = false) (fuel : Nat) :
    c.transitToState (fuel + 1) .established =
      ((c.replaceState .established).runPendingOperationIfPossible fuel).map
        fun ran : MtcCall × List Notice =>
          (ran.1, Notice.entered .established :: ran.2 ++ [.reported .established]) := by
  simp [transitToState, hstate, hpend]

@[simp]
theorem accept_state (c : MtcCall) (outcome : Outcome) :
    (c.accept outcome).state = c.state := by
  unfold accept
  split <;> rfl

@[simp]
theorem accept_isSessionRefreshInProgress (c : MtcCall) (outcome : Outcome) :
    (c.accept outcome).isSessionRefreshInProgress = c.isSessionRefreshInProgress := by
  unfold accept
  split <;> rfl

@[simp]
theorem accept_isInUpdateAfterConnectedDelay (c : MtcCall) (outcome : Outcome) :
    (c.accept outcome).isInUpdateAfterConnectedDelay = c.isInUpdateAfterConnectedDelay := by
  unfold accept
  split <;> rfl

theorem accept_shouldPendOperation (c : MtcCall) (outcome : Outcome) :
    (c.accept outcome).shouldPendOperation = c.shouldPendOperation := by
  unfold shouldPendOperation
  rw [accept_isSessionRefreshInProgress, accept_isInUpdateAfterConnectedDelay]

theorem accept_pendingOperations (c : MtcCall) (outcome : Outcome) :
    (c.accept outcome).pendingOperations =
      c.pendingOperations ++ outcome.putOff.toList := by
  unfold accept
  cases outcome.putOff with
  | none => exact (List.append_nil _).symm
  | some p => rfl

theorem accept_of_none (c : MtcCall) {outcome : Outcome} (hnone : outcome.putOff = none) :
    c.accept outcome = c := by
  simp [accept, hnone]

theorem runPendingOperationIfPossible_nil {c : MtcCall} (hpending : c.pendingOperations = [])
    (fuel : Nat) : c.runPendingOperationIfPossible (fuel + 1) = some (c, []) := by
  simp [runPendingOperationIfPossible, hpending]

/-- The loop does not run outside ESTABLISHED or in the delay after connecting. -/
theorem runPendingOperationIfPossible_of_not_possible {c : MtcCall}
    (hnot : ¬(c.state = .established ∧ c.isInUpdateAfterConnectedDelay = false)) (fuel : Nat) :
    c.runPendingOperationIfPossible (fuel + 1) = some (c, []) := by
  rw [runPendingOperationIfPossible]
  split
  · rfl
  · rw [if_neg hnot]

theorem runPendingOperationIfPossible_cons {c : MtcCall} {p : PendingOperation}
    {rest : List PendingOperation} (hstate : c.state = .established)
    (hdelay : c.isInUpdateAfterConnectedDelay = false)
    (hpending : c.pendingOperations = p :: rest) (fuel : Nat) :
    c.runPendingOperationIfPossible (fuel + 1) =
      (({ c with pendingOperations := rest }.accept
          (run c.shouldPendOperation p)).transitToState fuel
            (run c.shouldPendOperation p).next).bind fun transited : MtcCall × List Notice =>
        (transited.1.runPendingOperationIfPossible fuel).map fun later : MtcCall × List Notice =>
          (later.1, Notice.ran p :: transited.2 ++ later.2) := by
  rw [runPendingOperationIfPossible]
  simp only [hpending]
  rw [if_pos ⟨hstate, hdelay⟩]

theorem runPendingOperationIfPossible_stays {c : MtcCall} {p : PendingOperation}
    {rest : List PendingOperation} (hstate : c.state = .established)
    (hdelay : c.isInUpdateAfterConnectedDelay = false)
    (hpending : c.pendingOperations = p :: rest)
    (hnext : (run c.shouldPendOperation p).next = .established) (fuel : Nat) :
    c.runPendingOperationIfPossible (fuel + 2) =
      (({ c with pendingOperations := rest }.accept
          (run c.shouldPendOperation p)).runPendingOperationIfPossible (fuel + 1)).map
        fun r : MtcCall × List Notice => (r.1, Notice.ran p :: r.2) := by
  rw [runPendingOperationIfPossible_cons hstate hdelay hpending, hnext]
  have hself : CallStateName.established = ({ c with pendingOperations := rest }.accept
      (run c.shouldPendOperation p)).state := by
    rw [accept_state]
    exact hstate.symm
  rw [hself, transitToState_self]
  rfl

theorem runPendingOperationIfPossible_leaves {c : MtcCall} {p : PendingOperation}
    {rest : List PendingOperation} (hstate : c.state = .established)
    (hdelay : c.isInUpdateAfterConnectedDelay = false)
    (hpending : c.pendingOperations = p :: rest)
    (hnext : (run c.shouldPendOperation p).next ≠ .established) (fuel : Nat) :
    c.runPendingOperationIfPossible (fuel + 2) =
      some (({ c with pendingOperations := rest }.accept
          (run c.shouldPendOperation p)).replaceState (run c.shouldPendOperation p).next,
        [.ran p, .entered (run c.shouldPendOperation p).next,
          .reported (run c.shouldPendOperation p).next]) := by
  rw [runPendingOperationIfPossible_cons hstate hdelay hpending, transitToState_of_ne]
  · rw [Option.bind_some, runPendingOperationIfPossible_of_not_possible]
    · rfl
    · rintro ⟨hnot, -⟩
      exact hnext hnot
  · rw [accept_state]
    show c.state ≠ _
    rw [hstate]
    exact hnext.symm
  · exact hnext

/-- Where the loop meets no operation that puts itself off, it takes one operation from
the list at each turn. -/
theorem runPendingOperationIfPossible_eq_drained {c : MtcCall}
    (hstate : c.state = .established) (hdelay : c.isInUpdateAfterConnectedDelay = false)
    (horder : c.shouldPendOperation = true → keepsOrder c.pendingOperations = true)
    {fuel : Nat} (hfuel : c.pendingOperations.length < fuel) :
    c.runPendingOperationIfPossible fuel = some (c.drained c.pendingOperations) := by
  generalize hpending : c.pendingOperations = pending at horder hfuel
  induction pending generalizing c fuel with
  | nil =>
      obtain ⟨fuel, rfl⟩ := Nat.exists_eq_add_of_lt hfuel
      rw [runPendingOperationIfPossible_nil hpending]
      simp [drained, ← hpending]
  | cons p rest ih =>
      have hrun : run c.shouldPendOperation p = run false p := by
        cases hpend : c.shouldPendOperation with
        | false => rfl
        | true =>
            have hkeeps := horder hpend
            simp only [keepsOrder, Bool.and_eq_true, Bool.not_eq_true'] at hkeeps
            exact run_of_not_asksToPend hkeeps.1 true
      have hputOff : (run c.shouldPendOperation p).putOff = none := by
        rw [hrun]
        exact run_false_putOff p
      obtain ⟨fuel, rfl⟩ : ∃ n, fuel = n + 2 := by
        have : 2 ≤ fuel := by
          simp only [List.length_cons] at hfuel
          omega
        exact ⟨fuel - 2, by omega⟩
      cases hleaves : p.leavesEstablished with
      | true =>
          have hnext : (run c.shouldPendOperation p).next ≠ .established := by
            rw [hrun]
            exact (run_false_next p).mpr hleaves
          rw [runPendingOperationIfPossible_leaves hstate hdelay hpending hnext,
            accept_of_none _ hputOff, hrun, drained_leaves c rest hleaves]
      | false =>
          have hnext : (run c.shouldPendOperation p).next = .established := by
            rw [hrun]
            exact run_false_next_of_not_leaves hleaves
          rw [runPendingOperationIfPossible_stays hstate hdelay hpending hnext,
            accept_of_none _ hputOff,
            ih (c := { c with pendingOperations := rest }) hstate hdelay rfl]
          · rw [drained_with_pendingOperations, drained_stays c rest hleaves]
            rfl
          · intro hpend
            have hkeeps := horder hpend
            simp only [keepsOrder, hleaves, Bool.false_or, Bool.and_eq_true] at hkeeps
            exact hkeeps.2
          · simp only [List.length_cons] at hfuel
            omega

theorem fuel_succ (fuel : Nat) :
    (∀ (c : MtcCall) (r : MtcCall × List Notice),
      c.runPendingOperationIfPossible fuel = some r →
        c.runPendingOperationIfPossible (fuel + 1) = some r) ∧
    ∀ (c : MtcCall) (eState : CallStateName) (r : MtcCall × List Notice),
      c.transitToState fuel eState = some r → c.transitToState (fuel + 1) eState = some r := by
  induction fuel with
  | zero =>
      constructor
      · intro c r hrun
        cases hrun
      · intro c eState r htransit
        cases htransit
  | succ fuel ih =>
      constructor
      · intro c r hrun
        rw [runPendingOperationIfPossible] at hrun ⊢
        cases hpending : c.pendingOperations with
        | nil =>
            rw [hpending] at hrun
            exact hrun
        | cons p rest =>
            rw [hpending] at hrun
            simp only at hrun ⊢
            split
            next hpossible =>
              rw [if_pos hpossible] at hrun
              obtain ⟨transited, htransit, hrest⟩ := Option.bind_eq_some_iff.mp hrun
              obtain ⟨later, hlater, heq⟩ := Option.map_eq_some_iff.mp hrest
              rw [ih.2 _ _ _ htransit, Option.bind_some, ih.1 _ _ hlater, Option.map_some,
                heq]
            next hnot =>
              rw [if_neg hnot] at hrun
              exact hrun
      · intro c eState r htransit
        rw [transitToState] at htransit ⊢
        split
        next hsame =>
          rw [if_pos hsame] at htransit
          exact htransit
        next hne =>
          rw [if_neg hne] at htransit
          simp only at htransit ⊢
          split
          next hest =>
            rw [if_pos hest] at htransit
            split
            next hpend =>
              rw [if_pos hpend] at htransit
              exact htransit
            next hpend =>
              rw [if_neg hpend] at htransit
              obtain ⟨ran, hran, heq⟩ := Option.map_eq_some_iff.mp htransit
              rw [ih.1 _ _ hran, Option.map_some, heq]
          next hest =>
            rw [if_neg hest] at htransit
            exact htransit

theorem runPendingOperationIfPossible_of_le {c : MtcCall} {r : MtcCall × List Notice}
    {fuel fuel' : Nat} (hle : fuel ≤ fuel')
    (hrun : c.runPendingOperationIfPossible fuel = some r) :
    c.runPendingOperationIfPossible fuel' = some r := by
  induction hle with
  | refl => exact hrun
  | step _ ih => exact (fuel_succ _).1 _ _ ih

theorem transitToState_of_le {c : MtcCall} {eState : CallStateName}
    {r : MtcCall × List Notice} {fuel fuel' : Nat} (hle : fuel ≤ fuel')
    (htransit : c.transitToState fuel eState = some r) :
    c.transitToState fuel' eState = some r := by
  induction hle with
  | refl => exact htransit
  | step _ ih => exact (fuel_succ _).2 _ _ _ ih

/-- The state before `RunPendingOperationIfPossible` lets the loop end in order: no
operation of the list puts itself off. -/
def KeepsOrder (c : MtcCall) : Prop :=
  c.state = .established → c.isInUpdateAfterConnectedDelay = false →
    c.isSessionRefreshInProgress = true → keepsOrder c.pendingOperations = true

instance (c : MtcCall) : Decidable c.KeepsOrder := by
  unfold KeepsOrder
  infer_instance

/-- What `RunPendingOperationIfPossible` comes to where no operation puts itself off. -/
def ranInOrder (c : MtcCall) : MtcCall × List Notice :=
  if c.state = .established ∧ c.isInUpdateAfterConnectedDelay = false then
    c.drained c.pendingOperations
  else (c, [])

/-- What `TransitToState` comes to: the loop runs in it only when nothing is put off. -/
def transited (c : MtcCall) (eState : CallStateName) : MtcCall × List Notice :=
  if c.state = eState then (c, [])
  else if eState = .established then
    if c.shouldPendOperation then
      ((c.replaceState eState).postRun, [.entered eState, .reported eState])
    else
      (((c.replaceState eState).drained c.pendingOperations).1,
        .entered eState :: ((c.replaceState eState).drained c.pendingOperations).2 ++
          [.reported eState])
  else (c.replaceState eState, [.entered eState, .reported eState])

theorem KeepsOrder.run {c : MtcCall} (hkeeps : c.KeepsOrder) :
    ∃ fuel, c.runPendingOperationIfPossible fuel = some c.ranInOrder := by
  unfold ranInOrder
  split
  next hpossible =>
    refine ⟨c.pendingOperations.length + 1, ?_⟩
    apply runPendingOperationIfPossible_eq_drained hpossible.1 hpossible.2
    · intro hpend
      apply hkeeps hpossible.1 hpossible.2
      simpa [shouldPendOperation, hpossible.2] using hpend
    · exact Nat.lt_succ_self _
  next hnot =>
    exact ⟨1, runPendingOperationIfPossible_of_not_possible hnot 0⟩

theorem KeepsOrder.eq_ranInOrder {c : MtcCall} (hkeeps : c.KeepsOrder) {fuel : Nat}
    {r : MtcCall × List Notice} (hrun : c.runPendingOperationIfPossible fuel = some r) :
    r = c.ranInOrder := by
  obtain ⟨enough, henough⟩ := hkeeps.run
  have hmore := runPendingOperationIfPossible_of_le (Nat.le_max_left fuel enough) hrun
  rw [runPendingOperationIfPossible_of_le (Nat.le_max_right fuel enough) henough] at hmore
  exact (Option.some.inj hmore).symm

theorem exists_transitToState (c : MtcCall) (eState : CallStateName) :
    ∃ fuel, c.transitToState fuel eState = some (c.transited eState) := by
  unfold transited
  split
  next hsame =>
    subst hsame
    exact ⟨1, transitToState_self c 0⟩
  next hne =>
    split
    next hest =>
      subst hest
      cases hpend : c.shouldPendOperation with
      | true => exact ⟨1, transitToState_established_of_pend hne hpend 0⟩
      | false =>
          refine ⟨c.pendingOperations.length + 2, ?_⟩
          have hdelay : c.isInUpdateAfterConnectedDelay = false :=
            (Bool.or_eq_false_iff.mp hpend).2
          rw [transitToState_established hne hpend]
          rw [runPendingOperationIfPossible_eq_drained (c := c.replaceState .established) rfl
            hdelay]
          · rfl
          · intro hpend'
            rw [replaceState_shouldPendOperation, hpend] at hpend'
            cases hpend'
          · exact Nat.lt_succ_self _
    next hest => exact ⟨1, transitToState_of_ne hne hest 0⟩

theorem eq_transited {c : MtcCall} {eState : CallStateName} {fuel : Nat}
    {r : MtcCall × List Notice} (htransit : c.transitToState fuel eState = some r) :
    r = c.transited eState := by
  obtain ⟨enough, henough⟩ := c.exists_transitToState eState
  have hmore := transitToState_of_le (Nat.le_max_left fuel enough) htransit
  rw [transitToState_of_le (Nat.le_max_right fuel enough) henough] at hmore
  exact (Option.some.inj hmore).symm

theorem operationsRun_drained (c : MtcCall) (pending : List PendingOperation) :
    operationsRun (c.drained pending).2 ++ (c.drained pending).1.pendingOperations =
      pending := by
  induction pending with
  | nil => rfl
  | cons p rest ih =>
      unfold drained
      split
      · rfl
      · show p :: (operationsRun (c.drained rest).2 ++ _) = _
        rw [ih]

@[simp]
theorem drained_isSessionRefreshInProgress (c : MtcCall) (pending : List PendingOperation) :
    (c.drained pending).1.isSessionRefreshInProgress = c.isSessionRefreshInProgress := by
  induction pending with
  | nil => rfl
  | cons p rest ih =>
      unfold drained
      split
      · rfl
      · exact ih

@[simp]
theorem drained_isInUpdateAfterConnectedDelay (c : MtcCall)
    (pending : List PendingOperation) :
    (c.drained pending).1.isInUpdateAfterConnectedDelay = c.isInUpdateAfterConnectedDelay := by
  induction pending with
  | nil => rfl
  | cons p rest ih =>
      unfold drained
      split
      · rfl
      · exact ih

theorem drained_pendingOperations (c : MtcCall) (pending : List PendingOperation) :
    (c.drained pending).1.pendingOperations = [] ∨
      (c.drained pending).1.state ≠ .established := by
  induction pending with
  | nil => exact Or.inl rfl
  | cons p rest ih =>
      unfold drained
      split
      next hleaves =>
        exact Or.inr ((run_false_next p).mpr hleaves)
      next => exact ih

/-- During a refresh each turn of the loop either takes an operation from the list or
adds one to it. -/
theorem length_le_of_runPendingOperationIfPossible {fuel : Nat} {c c' : MtcCall}
    {notices : List Notice} (hstate : c.state = .established)
    (hdelay : c.isInUpdateAfterConnectedDelay = false)
    (hrefresh : c.isSessionRefreshInProgress = true)
    (hrun : c.runPendingOperationIfPossible fuel = some (c', notices)) :
    c.pendingOperations.length ≤
        (operationsRun notices).length + c'.pendingOperations.length ∧
      ((operationsRun notices).length + c'.pendingOperations.length ≤
          c.pendingOperations.length →
        keepsOrder c.pendingOperations = true) := by
  induction fuel generalizing c notices with
  | zero => simp [runPendingOperationIfPossible] at hrun
  | succ fuel ih =>
      have hpend : c.shouldPendOperation = true := by
        unfold shouldPendOperation
        rw [hrefresh, Bool.true_or]
      cases hpending : c.pendingOperations with
      | nil => simp [keepsOrder]
      | cons p rest =>
          obtain ⟨fuel, rfl⟩ : ∃ n, fuel = n + 1 := by
            cases fuel with
            | zero =>
                rw [runPendingOperationIfPossible_cons hstate hdelay hpending] at hrun
                cases hrun
            | succ n => exact ⟨n, rfl⟩
          cases hasks : p.asksToPend with
          | true =>
              -- The operation joins the list again: one turn more than the list is long.
              obtain ⟨q, -, hq⟩ := run_of_asksToPend hasks
              rw [runPendingOperationIfPossible_stays hstate hdelay hpending
                (by rw [hpend, hq]), hpend, hq] at hrun
              obtain ⟨⟨c₁, later⟩, hlater, heq⟩ := Option.map_eq_some_iff.mp hrun
              simp only [Prod.mk.injEq] at heq
              obtain ⟨rfl, rfl⟩ := heq
              have hlength := (ih (by rw [accept_state]; exact hstate)
                (by rw [accept_isInUpdateAfterConnectedDelay]; exact hdelay)
                (by rw [accept_isSessionRefreshInProgress]; exact hrefresh) hlater).1
              rw [accept_pendingOperations] at hlength
              simp only [Option.toList_some, List.length_append, List.length_cons,
                List.length_nil] at hlength
              have hcount : (operationsRun (.ran p :: later)).length =
                  (operationsRun later).length + 1 := rfl
              simp only [List.length_cons, hcount]
              constructor
              · omega
              · intro hle
                exfalso
                omega
          | false =>
              have hsame := run_of_not_asksToPend hasks c.shouldPendOperation
              have hnone : (run c.shouldPendOperation p).putOff = none := by
                rw [hsame]
                exact run_false_putOff p
              cases hleaves : p.leavesEstablished with
              | true =>
                  rw [runPendingOperationIfPossible_leaves hstate hdelay hpending
                    (by rw [hsame]; exact (run_false_next p).mpr hleaves),
                    accept_of_none _ hnone] at hrun
                  cases hrun
                  constructor
                  · exact Nat.le_of_eq (Nat.add_comm _ _)
                  · intro _
                    simp [keepsOrder, hasks, hleaves]
              | false =>
                  rw [runPendingOperationIfPossible_stays hstate hdelay hpending
                    (by rw [hsame]; exact run_false_next_of_not_leaves hleaves),
                    accept_of_none _ hnone] at hrun
                  obtain ⟨⟨c₁, later⟩, hlater, heq⟩ := Option.map_eq_some_iff.mp hrun
                  simp only [Prod.mk.injEq] at heq
                  obtain ⟨rfl, rfl⟩ := heq
                  obtain ⟨hlength, hkeeps⟩ := ih (c := { c with pendingOperations := rest })
                    hstate hdelay hrefresh hlater
                  have hcount : (operationsRun (.ran p :: later)).length =
                      (operationsRun later).length + 1 := rfl
                  simp only [List.length_cons, hcount]
                  constructor
                  · show rest.length + 1 ≤ _
                    replace hlength : rest.length ≤ _ := hlength
                    omega
                  · intro hle
                    simp only [keepsOrder, hasks, hleaves, Bool.not_false, Bool.false_or,
                      Bool.true_and]
                    apply hkeeps
                    show _ ≤ rest.length
                    omega

/-- During a refresh a list of operations that all put themselves off is run for ever. -/
theorem runPendingOperationIfPossible_none (fuel : Nat) {c : MtcCall}
    (hstate : c.state = .established) (hdelay : c.isInUpdateAfterConnectedDelay = false)
    (hrefresh : c.isSessionRefreshInProgress = true) (hpending : c.pendingOperations ≠ [])
    (hasks : ∀ p ∈ c.pendingOperations, p.asksToPend = true) :
    c.runPendingOperationIfPossible fuel = none := by
  have hpend : c.shouldPendOperation = true := by
    unfold shouldPendOperation
    rw [hrefresh, Bool.true_or]
  induction fuel generalizing c with
  | zero => rfl
  | succ fuel ih =>
      obtain ⟨p, rest, hcons⟩ := List.exists_cons_of_ne_nil hpending
      rw [hcons] at hasks
      obtain ⟨q, hq, hrun⟩ := run_of_asksToPend (hasks p List.mem_cons_self)
      cases fuel with
      | zero =>
          rw [runPendingOperationIfPossible_cons hstate hdelay hcons]
          rfl
      | succ fuel =>
          rw [runPendingOperationIfPossible_stays hstate hdelay hcons (by rw [hpend, hrun]),
            hpend, hrun]
          have hnone : ({ c with pendingOperations := rest }.accept
              ⟨.established, some q⟩).runPendingOperationIfPossible (fuel + 1) = none := by
            refine ih (c := { c with pendingOperations := rest }.accept
              ⟨.established, some q⟩) hstate hdelay hrefresh ?_ ?_ hpend
            · exact List.append_ne_nil_of_right_ne_nil _ (List.cons_ne_nil _ _)
            · intro p' hp'
              rcases List.mem_append.mp hp' with hrest | hself
              · exact hasks p' (List.mem_cons_of_mem _ hrest)
              · rw [List.mem_singleton.mp hself]
                exact hq
          rw [hnone]
          rfl

end MtcCall

end ImsStack.Call
