import ImsStack.Call.CallStateProxy

/-!
The states given to the watcher of a call against the states the call enters.  A
transition made from the entry action of ESTABLISHED is reported before ESTABLISHED is.
-/

namespace ImsStack.Call

open TransitionSystem EstablishedState

/-- The notices of states, without the operations run. -/
def stateNotices (notices : List Notice) : List Notice :=
  notices.filter fun n => n.operation?.isNone

/-- An event keeps the state, or enters and then reports one. -/
inductive Changed (c : MtcCall) : MtcCall × List Notice → Prop where
  | kept {r : MtcCall × List Notice} :
      stateNotices r.2 = [] → r.1.state = c.state → Changed c r
  | entered {r : MtcCall × List Notice} :
      c.state ≠ .terminating →
      stateNotices r.2 = [.entered r.1.state, .reported r.1.state] → Changed c r

theorem Changed.of_state {c c' : MtcCall} {r : MtcCall × List Notice} (hchanged : Changed c' r)
    (hstate : c'.state = c.state) : Changed c r := by
  cases hchanged with
  | kept hnotices hsame => exact .kept hnotices (hsame.trans hstate)
  | entered hnot hnotices =>
      rw [hstate] at hnot
      exact .entered hnot hnotices

theorem Changed.ran {c : MtcCall} {r : MtcCall × List Notice} (hchanged : Changed c r)
    (p : PendingOperation) : Changed c (r.1, .ran p :: r.2) := by
  cases hchanged with
  | kept hnotices hsame => exact .kept hnotices hsame
  | entered hnot hnotices => exact .entered hnot hnotices

theorem stateNotices_transition (eState eState' : CallStateName) {notices : List Notice}
    (hnone : stateNotices notices = []) :
    stateNotices (.entered eState :: notices ++ [.reported eState']) =
      [.entered eState, .reported eState'] := by
  show Notice.entered eState :: stateNotices (notices ++ [Notice.reported eState']) = _
  unfold stateNotices at hnone ⊢
  rw [List.filter_append, hnone]
  rfl

namespace MtcCall

/-- No operation that the entry action of ESTABLISHED would run leaves that state. -/
def EntersQuietly (c : MtcCall) : CallEvent → Prop
  | .stateOperation putOff startsDelay .established =>
    c.state ≠ .established → (c.startDelay startsDelay).shouldPendOperation = false →
      ∀ p ∈ c.pendingOperations ++ putOff, p.leavesEstablished = false
  | _ => True

theorem changed_of_runPendingOperationIfPossible {fuel : Nat} {c : MtcCall}
    {r : MtcCall × List Notice} (hrun : c.runPendingOperationIfPossible fuel = some r) :
    Changed c r := by
  induction fuel generalizing c r with
  | zero => cases hrun
  | succ fuel ih =>
      rcases Decidable.em (c.state = .established ∧ c.isInUpdateAfterConnectedDelay = false)
        with ⟨hstate, hdelay⟩ | hnot
      · cases hpending : c.pendingOperations with
        | nil =>
            rw [runPendingOperationIfPossible_nil hpending] at hrun
            cases hrun
            exact .kept rfl rfl
        | cons p rest =>
            cases fuel with
            | zero =>
                rw [runPendingOperationIfPossible_cons hstate hdelay hpending] at hrun
                cases hrun
            | succ fuel =>
                rcases Decidable.em ((run c.shouldPendOperation p).next = .established)
                  with hnext | hnext
                · rw [runPendingOperationIfPossible_stays hstate hdelay hpending hnext] at hrun
                  obtain ⟨later, hlater, rfl⟩ := Option.map_eq_some_iff.mp hrun
                  exact ((ih hlater).ran p).of_state (accept_state _ _)
                · rw [runPendingOperationIfPossible_leaves hstate hdelay hpending hnext] at hrun
                  cases hrun
                  apply Changed.entered
                  · rw [hstate]
                    rintro ⟨⟩
                  · rfl
      · rw [runPendingOperationIfPossible_of_not_possible hnot] at hrun
        cases hrun
        exact .kept rfl rfl

theorem drained_of_stays (c : MtcCall) {pending : List PendingOperation}
    (hstays : ∀ p ∈ pending, p.leavesEstablished = false) :
    stateNotices (c.drained pending).2 = [] ∧ (c.drained pending).1.state = c.state := by
  induction pending with
  | nil => exact ⟨rfl, rfl⟩
  | cons p rest ih =>
      rw [drained_stays c rest (hstays p List.mem_cons_self)]
      exact ih fun p' hp' => hstays p' (List.mem_cons_of_mem _ hp')

theorem changed_transited {c : MtcCall} {eState : CallStateName}
    (hterminating : c.state = .terminating → eState = .terminating)
    (hquiet : eState = .established → c.state ≠ .established →
      c.shouldPendOperation = false →
      ∀ p ∈ c.pendingOperations, p.leavesEstablished = false) :
    Changed c (c.transited eState) := by
  unfold MtcCall.transited
  split
  next => exact .kept rfl rfl
  next hne =>
    have hnot : c.state ≠ .terminating := by
      intro hstate
      apply hne
      rw [hstate, hterminating hstate]
    split
    next hest =>
      subst hest
      split
      next => exact .entered hnot rfl
      next hpend =>
        obtain ⟨hnotices, hstate⟩ := drained_of_stays (c.replaceState .established)
          (hquiet rfl hne (Bool.eq_false_iff.mpr hpend))
        apply Changed.entered hnot
        show stateNotices (.entered _ :: _ ++ [.reported _]) = [.entered _, .reported _]
        rw [stateNotices_transition _ _ hnotices, hstate]
        rfl
    next => exact .entered hnot rfl

/-- What the call handles without leaving ESTABLISHED from its entry action changes the
state at most once. -/
theorem changed_of_handle {c : MtcCall} {e : CallEvent} (henabled : c.Enabled e)
    (hquiet : c.EntersQuietly e) {fuel : Nat} {r : MtcCall × List Notice}
    (hhandle : c.handle fuel e = some r) : Changed c r := by
  cases e with
  | operation p =>
      rw [eq_transited hhandle]
      have hstate : (c.accept (run c.shouldPendOperation p)).state = .established := by
        rw [accept_state]
        exact henabled
      refine Changed.of_state (changed_transited ?_ ?_) (accept_state c _)
      · intro hterminating
        rw [hstate] at hterminating
        cases hterminating
      · intro _ hne
        exact absurd hstate hne
  | stateOperation putOff startsDelay eNextState =>
      rw [eq_transited hhandle]
      refine Changed.of_state (changed_transited henabled.2 ?_) rfl
      rintro rfl
      exact hquiet
  | postedRun =>
      exact (changed_of_runPendingOperationIfPossible hhandle).of_state rfl
  | refreshStarted =>
      cases hhandle
      exact .kept rfl rfl
  | refreshNotified isStillInProgress =>
      cases hhandle
      exact .kept rfl (postRunIfEstablished_state c)
  | delayExpired =>
      cases hhandle
      exact .kept rfl (postRunIfEstablished_state c)
  | answersChange answers =>
      cases hhandle
      exact .kept rfl rfl

end MtcCall

theorem StateWatch.foldl_stateNotices (totalOf : CallStateName → CallStateName)
    (w : StateWatch) (notices : List Notice) :
    notices.foldl (StateWatch.notice totalOf) w =
      (stateNotices notices).foldl (StateWatch.notice totalOf) w := by
  induction notices generalizing w with
  | nil => rfl
  | cons n rest ih =>
      cases n with
      | ran p => exact ih w
      | entered eState => exact ih _
      | reported eState => exact ih _

/-- The states reported are the states entered, and the last of them is the current one;
nothing is entered after TERMINATING. -/
structure ManagedCall.Consistent (m : ManagedCall) : Prop where
  reported_eq : m.reported = m.entered
  last : m.entered.getLast? = some m.call.state
  order : m.entered.Pairwise fun earlier _ => earlier ≠ .terminating

namespace CallManager

/-- All calls are consistent, and the total is the one of their current states. -/
structure Consistent (w : CallManager) : Prop where
  calls : ∀ m ∈ w.calls, m.Consistent
  total_eq : w.eTotalState = total w.calls

theorem total_append_cons (before after : List ManagedCall) (m : ManagedCall) :
    total (before ++ m :: after) = totalWith before after m.ePeerType m.call.state := by
  unfold total totalWith
  rw [List.map_append, List.map_cons]
  rfl

end CallManager

theorem pairwise_append_state {entered : List CallStateName} {eState eNextState : CallStateName}
    (horder : entered.Pairwise fun earlier _ => earlier ≠ .terminating)
    (hlast : entered.getLast? = some eState) (hnot : eState ≠ .terminating) :
    (entered ++ [eNextState]).Pairwise fun earlier _ => earlier ≠ .terminating := by
  obtain ⟨before, rfl⟩ := List.getLast?_eq_some_iff.mp hlast
  rw [List.pairwise_append] at horder ⊢
  refine ⟨List.pairwise_append.mpr horder, List.pairwise_singleton _ _, ?_⟩
  intro earlier hearlier _ _
  rcases List.mem_append.mp hearlier with hbefore | hself
  · exact horder.2.2 earlier hbefore eState List.mem_cons_self
  · rw [List.mem_singleton.mp hself]
    exact hnot

namespace CallManager

variable {w : CallManager} {before after : List ManagedCall} {m : ManagedCall}
  {result : MtcCall × List Notice}

/-- A call that is consistent, in a manager whose others are, handles an event that changes
its state at most once; where it reports nothing, the total must be right already. -/
theorem Consistent.callHandled (hm : m.Consistent)
    (hbefore : ∀ m' ∈ before, m'.Consistent) (hafter : ∀ m' ∈ after, m'.Consistent)
    (htotal : stateNotices result.2 = [] →
      w.eTotalState = totalWith before after m.ePeerType m.call.state)
    (hchanged : Changed m.call result) : (w.callHandled before after m result).Consistent := by
  have hothers : ∀ m' : ManagedCall, m'.Consistent →
      ∀ m'' ∈ before ++ m' :: after, m''.Consistent := by
    intro m' hm' m'' hmem
    rcases List.mem_append.mp hmem with hmem | hmem
    · exact hbefore m'' hmem
    · rcases List.mem_cons.mp hmem with rfl | hmem
      · exact hm'
      · exact hafter m'' hmem
  unfold CallManager.callHandled
  rw [StateWatch.foldl_stateNotices]
  cases hchanged with
  | kept hnotices hsame =>
      rw [hnotices]
      constructor
      · apply hothers
        exact ⟨hm.reported_eq, hm.last.trans (congrArg some hsame.symm), hm.order⟩
      · show w.eTotalState = total (before ++ _ :: after)
        rw [total_append_cons, htotal hnotices, ← hsame]
  | entered hnot hnotices =>
      rw [hnotices]
      constructor
      · apply hothers
        refine ⟨?_, ?_, ?_⟩
        · show m.reported ++ [_] = m.entered ++ [_]
          rw [hm.reported_eq]
        · exact List.getLast?_concat
        · exact pairwise_append_state hm.order hm.last hnot
      · show totalWith before after m.ePeerType result.1.state = total (before ++ _ :: after)
        rw [total_append_cons]

theorem new_consistent (ePeerType : PeerType) :
    (⟨MtcCall.new, ePeerType, [.idle], [.idle]⟩ : ManagedCall).Consistent :=
  ⟨rfl, rfl, List.pairwise_singleton _ _⟩

/-- The condition on an event: the entry action of ESTABLISHED runs no operation that
leaves it, and where the state of no call is reported, the total does not change. -/
def ReportsInOrder (w : CallManager) : ManagerEvent → Prop
  | .createCall ePeerType eNextState =>
    eNextState = .idle →
      total (w.calls ++ [⟨MtcCall.new, ePeerType, [.idle], [.idle]⟩]) = total w.calls
  | .callEvent place e => ∀ m, w.calls[place]? = some m → m.call.EntersQuietly e
  | .start place eNextState =>
    ∀ m, w.calls[place]? = some m → m.call.EntersQuietly (plainOperation eNextState) ∧
      (eNextState = .idle →
        total (w.calls.set place { m with ePeerType := .mo }) = total w.calls)
  | .removeCall place => total (w.calls.eraseIdx place) = total w.calls

theorem getElem?_append_cons (before after : List ManagedCall) (m : ManagedCall) :
    (before ++ m :: after)[before.length]? = some m := by
  simp

theorem eNextState_eq_idle {c : MtcCall} {eNextState : CallStateName} (hidle : c.state = .idle)
    {fuel : Nat} {r : MtcCall × List Notice}
    (hhandle : c.handle fuel (plainOperation eNextState) = some r)
    (hnotices : stateNotices r.2 = []) : eNextState = .idle := by
  rw [MtcCall.eq_transited hhandle] at hnotices
  unfold MtcCall.transited at hnotices
  split at hnotices
  next hsame => exact hsame.symm.trans hidle
  next =>
    split at hnotices
    · split at hnotices <;> cases hnotices
    · cases hnotices

theorem enabled_plainOperation {c : MtcCall} (hidle : c.state = .idle)
    (eNextState : CallStateName) : c.Enabled (plainOperation eNextState) := by
  constructor
  · intro _
    exact ⟨rfl, rfl⟩
  · intro hterminating
    rw [hidle] at hterminating
    cases hterminating

theorem entersQuietly_new (eNextState : CallStateName) :
    MtcCall.new.EntersQuietly (plainOperation eNextState) := by
  cases eNextState with
  | established =>
      intro _ _ p hp
      cases hp
  | _ => trivial

theorem Consistent.step {w' : CallManager} {e : ManagerEvent} (hw : w.Consistent)
    (hreports : w.ReportsInOrder e) (hstep : Step w e w') : w'.Consistent := by
  cases hstep with
  | @createCall ePeerType eNextState _ _ hhandle =>
      refine Consistent.callHandled (new_consistent ePeerType) hw.calls ?_ ?_ ?_
      · rintro _ ⟨⟩
      · intro hnotices
        have hsame := hreports (eNextState_eq_idle rfl hhandle hnotices)
        rw [total_append_cons] at hsame
        exact hsame.symm
      · exact MtcCall.changed_of_handle (enabled_plainOperation rfl eNextState)
          (entersQuietly_new eNextState) hhandle
  | @callEvent before after m _ _ _ hcalls henabled hhandle =>
      obtain ⟨hall, htotal⟩ := hw
      have hquiet := hreports m (hcalls ▸ getElem?_append_cons before after m)
      rw [hcalls] at hall htotal
      refine Consistent.callHandled (hall m ?_) ?_ ?_ ?_
        (MtcCall.changed_of_handle henabled hquiet hhandle)
      · exact List.mem_append_right _ List.mem_cons_self
      · exact fun m' hm' => hall m' (List.mem_append_left _ hm')
      · exact fun m' hm' => hall m' (List.mem_append_right _ (List.mem_cons_of_mem _ hm'))
      · intro _
        rw [htotal, total_append_cons]
  | @start before after m eNextState _ _ hcalls hidle hhandle =>
      obtain ⟨hall, htotal⟩ := hw
      obtain ⟨hquiet, hsame⟩ := hreports m (hcalls ▸ getElem?_append_cons before after m)
      rw [hcalls] at hall htotal hsame
      have hm := hall m (List.mem_append_right _ List.mem_cons_self)
      refine Consistent.callHandled ⟨hm.reported_eq, hm.last, hm.order⟩ ?_ ?_ ?_ ?_
      · exact fun m' hm' => hall m' (List.mem_append_left _ hm')
      · exact fun m' hm' => hall m' (List.mem_append_right _ (List.mem_cons_of_mem _ hm'))
      · intro hnotices
        have hset := hsame (eNextState_eq_idle hidle hhandle hnotices)
        rw [List.set_append_right _ _ (Nat.le_refl _), Nat.sub_self, List.set_cons_zero,
          total_append_cons] at hset
        rw [htotal, ← hset]
      · exact MtcCall.changed_of_handle (enabled_plainOperation hidle eNextState) hquiet hhandle
  | @removeCall before after m hcalls =>
      obtain ⟨hall, htotal⟩ := hw
      constructor
      · intro m' hm'
        apply hall m'
        rw [hcalls]
        rcases List.mem_append.mp hm' with hbefore | hafter
        · exact List.mem_append_left _ hbefore
        · exact List.mem_append_right _ (List.mem_cons_of_mem _ hafter)
      · have hsame : total (w.calls.eraseIdx before.length) = total w.calls := hreports
        rw [hcalls, List.eraseIdx_append_of_length_le (Nat.le_refl _), Nat.sub_self,
          List.eraseIdx_cons_zero, ← hcalls] at hsame
        exact htotal.trans hsame.symm

/-- In a run whose events meet the condition, the states given to the watcher of a call are
the states it entered, in order; the last of them is the current one; nothing is entered
after TERMINATING; and the total is the one of the current states of all calls. -/
theorem callStates_reportedInOrder {w : CallManager}
    (hw : (callManagers.restrict ReportsInOrder).Reachable w) :
    (∀ m ∈ w.calls, m.reported = m.entered ∧ m.reported.getLast? = some m.call.state ∧
      m.entered.Pairwise fun earlier _ => earlier ≠ .terminating) ∧
      w.eTotalState = total w.calls := by
  have hconsistent : w.Consistent := by
    apply System.Reachable.restrict_invariant (I := Consistent) _ _ hw
    · rintro _ rfl
      exact ⟨fun _ hm => absurd hm List.not_mem_nil, rfl⟩
    · intro w e w' hw hreports hstep
      exact hw.step hreports hstep
  constructor
  · intro m hm
    have hcall := hconsistent.calls m hm
    exact ⟨hcall.reported_eq, hcall.reported_eq ▸ hcall.last, hcall.order⟩
  · exact hconsistent.total_eq

/-! ### Runs -/

/-- A RAT change that is to be sent. -/
def ratChange (isUpdateSent : Bool) : PendingOperation where
  operation := .onIpcanChanged
  answers :=
    { callType := .voip
      isAudioInactive := false
      isValidDirection := true
      sendsReinviteOnRatChange := true
      hasSession := true
      isUpdateSent := isUpdateSent
      isUpdateLeftOpen := false }

/-- A manager of one incoming call. -/
def incomingCall (c : MtcCall) (entered reported : List CallStateName)
    (eTotalState : CallStateName) : CallManager :=
  ⟨[⟨c, .mt, entered, reported⟩], eTotalState⟩

/-- A call in one of its states, with a RAT change that waits for ESTABLISHED. -/
def waiting (eState : CallStateName) (isUpdateSent : Bool) : MtcCall :=
  { MtcCall.new with state := eState, pendingOperations := [ratChange isUpdateSent] }

theorem step_incomingCall {c : MtcCall} {e : CallEvent} (fuel : Nat)
    {r : MtcCall × List Notice} (henabled : c.Enabled e) (hhandle : c.handle fuel e = some r)
    (entered reported : List CallStateName) (eTotalState : CallStateName) :
    Step (incomingCall c entered reported eTotalState) (.callEvent 0 e)
      ((incomingCall c entered reported eTotalState).callHandled [] []
        ⟨c, .mt, entered, reported⟩ r) :=
  @Step.callEvent _ [] [] _ e fuel r rfl henabled hhandle

theorem enabled_stateOperation {c : MtcCall} (putOff : List PendingOperation)
    (eNextState : CallStateName) (hestablished : c.state ≠ .established)
    (hterminating : c.state ≠ .terminating) :
    c.Enabled (.stateOperation putOff false eNextState) :=
  ⟨fun hstate => absurd hstate hestablished, fun hstate => absurd hstate hterminating⟩

/-- The call rings, and the RAT has changed meanwhile. -/
def ringingCall (isUpdateSent : Bool) : CallManager :=
  incomingCall (waiting .incoming isUpdateSent) [.idle, .incoming] [.idle, .incoming] .incoming

theorem ringingCall_reachable (isUpdateSent : Bool) :
    (callManagers.restrict ReportsInOrder).Reachable (ringingCall isUpdateSent) := by
  have hincoming : (callManagers.restrict ReportsInOrder).Reachable
      (incomingCall { MtcCall.new with state := .incoming } [.idle, .incoming]
        [.idle, .incoming] .incoming) := by
    apply System.Reachable.step (.createCall .mt .incoming) (.init rfl)
    constructor
    · rintro ⟨⟩
    · exact @Step.createCall .new .mt .incoming 1 _ rfl
  apply System.Reachable.step
    (.callEvent 0 (.stateOperation [ratChange isUpdateSent] false .incoming)) hincoming
  constructor
  · intro m _
    trivial
  · exact step_incomingCall 1 (r := (waiting .incoming isUpdateSent, []))
      (enabled_stateOperation _ _ (by decide) (by decide)) rfl _ _ _

/-- The update for the RAT change could not be sent. -/
theorem callStates_reportedInOrder_answered :
    ∃ w : CallManager, w.eTotalState = .established ∧
      (∀ m ∈ w.calls, m.entered = [.idle, .incoming, .established] ∧
        m.reported = m.entered) ∧ w.eTotalState = total w.calls := by
  have hquiet : (ringingCall false).ReportsInOrder
      (.callEvent 0 (plainOperation .established)) := by
    rintro m hm _ _ p hp
    cases hm
    rw [List.mem_singleton.mp hp]
    rfl
  have hstep := step_incomingCall 4
    (r := ({ MtcCall.new with state := .established },
      [.entered .established, .ran (ratChange false), .reported .established]))
    (enabled_stateOperation (c := waiting .incoming false) [] .established (by decide)
      (by decide)) rfl
    [.idle, .incoming] [.idle, .incoming] .incoming
  obtain ⟨hcalls, htotal⟩ := callStates_reportedInOrder
    (System.Reachable.step _ (ringingCall_reachable false) ⟨hquiet, hstep⟩)
  refine ⟨_, rfl, ?_, htotal⟩
  intro m hm
  refine ⟨?_, (hcalls m hm).1⟩
  rw [List.mem_singleton.mp hm]
  rfl

/-- The update for the RAT change is sent from the entry action of ESTABLISHED: UPDATING is
reported before ESTABLISHED, which remains the last state reported. -/
theorem callStates_notReportedInOrder :
    (∃ w, callManagers.Reachable w ∧ ∃ m ∈ w.calls, m.call.state = .updating ∧
      m.entered = [.idle, .incoming, .established, .updating] ∧
      m.reported = [.idle, .incoming, .updating, .established]) ∧
    ∃ w, callManagers.Reachable w ∧ w.eTotalState = .idle ∧ total w.calls = .outgoing := by
  constructor
  · have hstep := step_incomingCall 4
      (r := ({ MtcCall.new with state := .updating },
        [.entered .established, .ran (ratChange true), .entered .updating, .reported .updating,
          .reported .established]))
      (enabled_stateOperation (c := waiting .incoming true) [] .established (by decide)
        (by decide)) rfl
      [.idle, .incoming] [.idle, .incoming] .incoming
    exact ⟨_, .step _ (ringingCall_reachable true).of_restrict hstep, _,
      List.mem_singleton.mpr rfl, rfl, rfl, rfl⟩
  · -- `CreateCall` for an outgoing call that has not been started.
    exact ⟨_, .step (.createCall .mo .idle) (.init rfl) (@Step.createCall .new .mo .idle 1 _ rfl),
      rfl, rfl⟩

end CallManager

end ImsStack.Call
