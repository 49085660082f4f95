import ImsStack.Retry.RetryInvariant

/-!
Retry tasks neither stall nor go on after their result, in the runs whose steps meet the condition.
-/

namespace ImsStack.Retry

open TransitionSystem

namespace RetryTaskHelper

variable {h : RetryTaskHelper}

/-! ### An expiry -/

/-- The task within the callback of an expiry: its timer is active without a platform timer. -/
structure Expiring (h : RetryTaskHelper) : Prop where
  active : h.m_nState = .active
  timer : h.m_pTimer.m_nState = .active
  piTimer : h.m_pTimer.m_piTimer = false
  tracker : h.m_pTimer.m_nTracker < h.m_pTimer.m_objIntervals.length
  listening : h.bCmdListener = true ∧ h.m_pTimer.m_piListener = true
  reported : ¬ Reported h.trace
  indexed : Indexed h.m_pTimer.m_objIntervals.length h.trace
  quiet : Quiet h.trace
  ended : ¬ Ended h.trace
  started : h.trace ≠ []

theorem Expiring.intervals (hexp : h.Expiring) : h.m_pTimer.m_objIntervals ≠ [] := by
  intro hnil
  have htracker := hexp.tracker
  rw [hnil] at htracker
  exact absurd htracker (Nat.not_lt_zero _)

theorem Expiring.execute (hexp : h.Expiring) : (h.log .execute).Expiring where
  active := hexp.active
  timer := hexp.timer
  piTimer := hexp.piTimer
  tracker := hexp.tracker
  listening := hexp.listening
  reported := not_reported_cons hexp.reported fun _ => TaskEvent.noConfusion
  indexed := hexp.indexed.cons fun k hk => by cases hk
  quiet := hexp.quiet.cons hexp.reported
  ended hended := by
    rcases ended_cons.mp hended with h' | h' | h'
    · cases h'
    · cases h'
    · exact hexp.ended h'
  started := List.cons_ne_nil _ _

theorem Expiring.setOutstanding (hexp : h.Expiring) (nOutstanding : Nat) :
    { h with nOutstanding }.Expiring :=
  ⟨hexp.active, hexp.timer, hexp.piTimer, hexp.tracker, hexp.listening, hexp.reported, hexp.indexed,
    hexp.quiet, hexp.ended, hexp.started⟩

theorem Expiring.startTimer (hexp : h.Expiring) : h.startTimer.Inv where
  intervals := hexp.intervals
  timer := by
    unfold TimerRests
    rw [show h.startTimer.m_pTimer.m_nState = .active from hexp.timer]
    rfl
  listening _ := hexp.listening
  resting hinactive := absurd (hexp.active.symm.trans hinactive) TaskState.noConfusion
  silent h' := absurd h' (not_reported_cons hexp.reported fun _ => TaskEvent.noConfusion)
  indexed := hexp.indexed.cons fun k hk => by
    obtain rfl := TaskEvent.arm.inj hk
    exact hexp.tracker
  quiet := hexp.quiet.cons hexp.reported
  ended hended := by
    rcases ended_cons.mp hended with h' | h' | h'
    · cases h'
    · cases h'
    · exact absurd h' hexp.ended
  idle h' := absurd h' (List.cons_ne_nil _ _)
  fresh h' := absurd h' (List.cons_ne_nil _ _)
  waits _ _ := .inl rfl

theorem Expiring.pending (hexp : h.Expiring) (houtstanding : 0 < h.nOutstanding) :
    (h.setTimerState .pending).Inv where
  intervals := hexp.intervals
  timer := ⟨hexp.piTimer, hexp.tracker⟩
  listening _ := hexp.listening
  resting hinactive := absurd (hexp.active.symm.trans hinactive) TaskState.noConfusion
  silent h' := absurd h' hexp.reported
  indexed := hexp.indexed
  quiet := hexp.quiet
  ended hended := absurd hended hexp.ended
  idle h' := absurd h' hexp.started
  fresh h' := absurd h' hexp.started
  waits _ _ := .inr houtstanding

theorem Expiring.failed (hexp : h.Expiring) (nResultCode : ResultCode) :
    ((h.callListener nResultCode).stopTimer).Inv where
  intervals := hexp.intervals
  timer := ⟨rfl, rfl⟩
  listening _ := hexp.listening
  resting _ := rfl
  silent _ := rfl
  indexed := hexp.indexed.cons fun k hk => by cases hk
  quiet := hexp.quiet.cons hexp.reported
  ended hended := by
    rcases ended_cons.mp hended with h' | h' | h'
    · cases h'
    · cases h'
    · exact absurd h' hexp.ended
  idle h' := absurd h' (List.cons_ne_nil _ _)
  fresh h' := absurd h' (List.cons_ne_nil _ _)
  waits _ h' := absurd (reported_report _ _) h'

theorem Expiring.succeeded (hexp : h.Expiring) :
    ((h.terminate.callListener .ok).stopTimer).Inv := by
  obtain ⟨t, hterminate, hintervals, -, -⟩ := terminate_of_active hexp.active
  rw [hterminate]
  exact
    { intervals := fun hnil => hexp.intervals (hintervals.symm.trans hnil)
      timer := ⟨rfl, rfl⟩
      listening := fun h' => by cases h'
      resting := fun _ => rfl
      silent := fun _ => rfl
      indexed := by
        have hindexed := hexp.indexed
        rw [← hintervals] at hindexed
        exact hindexed.cons fun k hk => by cases hk
      quiet := hexp.quiet.cons hexp.reported
      ended := fun _ => rfl
      idle := fun h' => absurd h' (List.cons_ne_nil _ _)
      fresh := fun h' => absurd h' (List.cons_ne_nil _ _)
      waits := fun h' => by cases h' }

/-- The part of an expiry from the callback on. -/
def interim (h : RetryTaskHelper) (outcome : ExecuteOutcome) : RetryTaskHelper :=
  match (h.onInterimExpired outcome).1 with
  | .resultContinue => (h.onInterimExpired outcome).2.startTimer
  | .resultPending => (h.onInterimExpired outcome).2.setTimerState .pending
  | .resultStop => (h.onInterimExpired outcome).2.stopTimer

/-- The task when its timer has expired and is not at its end. -/
def beforeInterim (h : RetryTaskHelper) : RetryTaskHelper :=
  (h.setTimer { h.m_pTimer with m_piTimer := false }).repeatLast

theorem interim_of_failure (hexp : h.Expiring) {outcome : ExecuteOutcome}
    (hfailure : outcome.success = false) :
    h.interim outcome = ((h.executeCmd outcome).callListener .nokInternalOperation).stopTimer := by
  have hresult : h.onInterimExpired outcome =
      (.resultStop, (h.executeCmd outcome).callListener .nokInternalOperation) := by
    unfold onInterimExpired
    rw [if_neg (by rw [hexp.active]; exact TaskState.noConfusion)]
    dsimp only
    rw [if_pos (by rw [hfailure]; rfl)]
  unfold interim
  rw [hresult]

theorem interim_of_success (hexp : h.Expiring) {outcome : ExecuteOutcome}
    (hsuccess : outcome.success = true) :
    h.interim outcome =
      if (h.executeCmd outcome).m_nState = .inactive then (h.executeCmd outcome).stopTimer
      else if (h.executeCmd outcome).m_bTimerOnCmdCompleted then
        (h.executeCmd outcome).setTimerState .pending
      else (h.executeCmd outcome).startTimer := by
  unfold interim onInterimExpired
  rw [if_neg (by rw [hexp.active]; exact TaskState.noConfusion)]
  dsimp only
  rw [if_neg (by rw [hsuccess]; exact Bool.false_ne_true)]
  by_cases hinactive : (h.executeCmd outcome).m_nState = .inactive
  · rw [if_pos hinactive, if_pos hinactive]
  · rw [if_neg hinactive, if_neg hinactive]
    by_cases hpending : (h.executeCmd outcome).m_bTimerOnCmdCompleted = true
    · rw [if_pos hpending, if_pos hpending]
    · rw [if_neg hpending, if_neg hpending]

theorem executeCmd_none {outcome : ExecuteOutcome} (hcompleted : outcome.completed = none) :
    h.executeCmd outcome =
      if outcome.success then { h.log .execute with nOutstanding := h.nOutstanding + 1 }
      else h.log .execute := by
  unfold executeCmd
  rw [hcompleted]
  rfl

theorem Expiring.executeCmd_retry (hexp : h.Expiring) {outcome : ExecuteOutcome}
    {nResultCode : Int} (hcompleted : outcome.completed = some nResultCode)
    (hretry : h.m_pCondition nResultCode = true) :
    h.executeCmd outcome = h.log .execute := by
  unfold executeCmd
  rw [hcompleted]
  change RetryTaskHelper.cmdCompleted (h.log .execute) nResultCode = _
  unfold RetryTaskHelper.cmdCompleted
  rw [if_pos hexp.execute.listening.1,
    onCompleted_retry hexp.execute.intervals hexp.execute.active hretry,
    if_pos hexp.execute.timer]

theorem Expiring.executeCmd_success (hexp : h.Expiring) {outcome : ExecuteOutcome}
    {nResultCode : Int} (hcompleted : outcome.completed = some nResultCode)
    (hretry : ¬ h.m_pCondition nResultCode = true) :
    h.executeCmd outcome = (h.log .execute).terminate.callListener .ok := by
  unfold executeCmd
  rw [hcompleted]
  change RetryTaskHelper.cmdCompleted (h.log .execute) nResultCode = _
  unfold RetryTaskHelper.cmdCompleted
  rw [if_pos hexp.execute.listening.1, onCompleted_success hexp.execute.active hretry]

theorem Expiring.goOn (hexp : h.Expiring)
    (houtstanding : h.m_bTimerOnCmdCompleted = true → 0 < h.nOutstanding) :
    (if h.m_nState = .inactive then h.stopTimer
      else if h.m_bTimerOnCmdCompleted then h.setTimerState .pending
      else h.startTimer).Inv := by
  rw [if_neg (by rw [hexp.active]; exact TaskState.noConfusion)]
  split
  · rename_i hpending
    exact hexp.pending (houtstanding hpending)
  · exact hexp.startTimer

theorem Expiring.interim (hexp : h.Expiring) {outcome : ExecuteOutcome}
    (hfailure : ¬ (outcome.success = false ∧
      ∃ nResultCode ∈ outcome.completed, h.m_pCondition nResultCode = false))
    (hpending : ¬ (h.m_bTimerOnCmdCompleted = true ∧ outcome.success = true ∧ h.nOutstanding = 0 ∧
      ∃ nResultCode ∈ outcome.completed, h.m_pCondition nResultCode = true)) :
    (h.interim outcome).Inv := by
  have hexecute := hexp.execute
  cases hsuccess : outcome.success with
  | false =>
      rw [interim_of_failure hexp hsuccess]
      cases hcompleted : outcome.completed with
      | none =>
          rw [executeCmd_none hcompleted, hsuccess]
          exact hexecute.failed .nokInternalOperation
      | some nResultCode =>
          have hretry : h.m_pCondition nResultCode = true := by
            rw [← Bool.not_eq_false]
            exact fun h' => hfailure ⟨hsuccess, nResultCode, hcompleted, h'⟩
          rw [hexp.executeCmd_retry hcompleted hretry]
          exact hexecute.failed .nokInternalOperation
  | true =>
      rw [interim_of_success hexp hsuccess]
      cases hcompleted : outcome.completed with
      | none =>
          rw [executeCmd_none hcompleted, hsuccess]
          exact (hexecute.setOutstanding (h.nOutstanding + 1)).goOn fun _ => Nat.succ_pos _
      | some nResultCode =>
          by_cases hretry : h.m_pCondition nResultCode = true
          · rw [hexp.executeCmd_retry hcompleted hretry]
            refine hexecute.goOn fun hbool => Nat.pos_of_ne_zero fun hzero => hpending ?_
            exact ⟨hbool, hsuccess, hzero, nResultCode, hcompleted, hretry⟩
          · rw [hexp.executeCmd_success hcompleted hretry]
            obtain ⟨t, hterminate, -, -, -⟩ := terminate_of_active hexecute.active
            rw [if_pos (by rw [hterminate]; rfl)]
            exact hexecute.succeeded

theorem Base.timer_of_piTimer (hinv : h.Base) (hpi : h.m_pTimer.m_piTimer = true) :
    h.m_pTimer.m_nState = .active := by
  have hrests := hinv.timer
  unfold TimerRests at hrests
  cases hstate : h.m_pTimer.m_nState with
  | active => rfl
  | inactive => rw [hstate, hpi] at hrests; exact absurd hrests.1.symm Bool.false_ne_true
  | pending => rw [hstate, hpi] at hrests; exact absurd hrests.1.symm Bool.false_ne_true

theorem Base.of_piTimer (hinv : h.Base) (hpi : h.m_pTimer.m_piTimer = true) :
    h.m_nState = .active ∧ ¬ Reported h.trace ∧ ¬ Ended h.trace := by
  have htimer := hinv.timer_of_piTimer hpi
  have hactive : h.m_nState ≠ .inactive := fun hinactive =>
    absurd (htimer.symm.trans (hinv.resting hinactive)) TimerState.noConfusion
  refine ⟨?_, fun hreported => ?_, fun hended => hactive (hinv.ended hended)⟩
  · cases hstate : h.m_nState with
    | active => rfl
    | inactive => exact absurd hstate hactive
  · exact absurd (htimer.symm.trans (hinv.silent hreported)) TimerState.noConfusion

theorem Base.expiring (hinv : h.Base) (hpi : h.m_pTimer.m_piTimer = true) :
    h.beforeInterim.Expiring := by
  obtain ⟨hactive, hreported, hended⟩ := hinv.of_piTimer hpi
  have htimer := hinv.timer_of_piTimer hpi
  have hlistening := hinv.listening hactive
  have hstarted : h.trace ≠ [] := fun hnil =>
    absurd (hactive.symm.trans (hinv.idle hnil)) TaskState.noConfusion
  unfold beforeInterim repeatLast
  split
  · exact ⟨hactive, htimer, rfl, Nat.sub_lt (List.length_pos_iff.mpr hinv.intervals) Nat.one_pos,
      hlistening, hreported, hinv.indexed, hinv.quiet, hended, hstarted⟩
  · rename_i htracker
    exact ⟨hactive, htimer, rfl, Nat.not_le.mp htracker, hlistening, hreported, hinv.indexed,
      hinv.quiet, hended, hstarted⟩

theorem beforeInterim_same (h : RetryTaskHelper) :
    h.beforeInterim.m_bTimerOnCmdCompleted = h.m_bTimerOnCmdCompleted ∧
      h.beforeInterim.m_pCondition = h.m_pCondition ∧
      h.beforeInterim.nOutstanding = h.nOutstanding := by
  unfold beforeInterim repeatLast
  split
  · exact ⟨rfl, rfl, rfl⟩
  · exact ⟨rfl, rfl, rfl⟩

theorem timerExpired_interim (hinv : h.Base) (hpi : h.m_pTimer.m_piTimer = true)
    (hfinal : h.isFinal = false) (outcome : ExecuteOutcome) :
    h.timerExpired outcome = h.beforeInterim.interim outcome := by
  unfold timerExpired
  dsimp only
  rw [if_neg (by rw [hfinal]; exact Bool.false_ne_true)]
  change (if h.beforeInterim.m_pTimer.m_piListener then _ else _) = _
  rw [if_pos (hinv.expiring hpi).listening.2]
  rfl

theorem timerExpired_final (hinv : h.Base) (hpi : h.m_pTimer.m_piTimer = true)
    (hfinal : h.isFinal = true) (outcome : ExecuteOutcome) :
    h.timerExpired outcome = (h.stopTimer).callListener .nokTimerExpired := by
  have hactive := (hinv.of_piTimer hpi).1
  unfold timerExpired
  dsimp only
  rw [if_pos hfinal]
  change (if h.m_pTimer.m_piListener then h.stopTimer.onFinalExpired else _) = _
  rw [if_pos (hinv.listening hactive).2]
  unfold onFinalExpired
  rw [if_neg (by rw [show h.stopTimer.m_nState = h.m_nState from rfl, hactive];
                 exact TaskState.noConfusion)]

theorem Base.final (hinv : h.Base) (hpi : h.m_pTimer.m_piTimer = true) :
    (h.stopTimer.callListener .nokTimerExpired).Inv := by
  obtain ⟨hactive, hreported, hended⟩ := hinv.of_piTimer hpi
  exact
    { intervals := hinv.intervals
      timer := ⟨rfl, rfl⟩
      listening := hinv.listening
      resting := fun _ => rfl
      silent := fun _ => rfl
      indexed := hinv.indexed.cons fun k hk => by cases hk
      quiet := hinv.quiet.cons hreported
      ended := by
        intro h'
        rcases ended_cons.mp h' with h' | h' | h'
        · cases h'
        · cases h'
        · exact absurd h' hended
      idle := fun h' => absurd h' (List.cons_ne_nil _ _)
      fresh := fun h' => absurd h' (List.cons_ne_nil _ _)
      waits := fun _ h' => absurd (reported_report _ _) h' }

theorem Base.timerExpired (hinv : h.Base) (hpi : h.m_pTimer.m_piTimer = true)
    {outcome : ExecuteOutcome} (hallowed : h.Allowed (.expired outcome)) :
    (h.timerExpired outcome).Inv := by
  cases hfinal : h.isFinal with
  | true =>
      rw [timerExpired_final hinv hpi hfinal]
      exact hinv.final hpi
  | false =>
      rw [timerExpired_interim hinv hpi hfinal]
      obtain ⟨hfailure, hpending⟩ := hallowed hfinal
      obtain ⟨hbool, hcondition, houtstanding⟩ := beforeInterim_same h
      refine (hinv.expiring hpi).interim ?_ ?_
      · rw [hcondition]
        exact hfailure
      · rw [hbool, hcondition, houtstanding]
        exact hpending

/-! ### The start -/

/-- A task within `Start`: it is not active yet, and all its timer and command may have done is to
be started. -/
structure Starting (h : RetryTaskHelper) : Prop where
  intervals : h.m_pTimer.m_objIntervals ≠ []
  timer : TimerRests h.m_pTimer
  listening : h.bCmdListener = true ∧ h.m_pTimer.m_piListener = true
  inactive : h.m_nState = .inactive
  reported : ¬ Reported h.trace
  indexed : Indexed h.m_pTimer.m_objIntervals.length h.trace
  quiet : Quiet h.trace
  ended : ¬ Ended h.trace

/-- The task with its listeners set. -/
def listen (h : RetryTaskHelper) : RetryTaskHelper :=
  { h with bCmdListener := true }.setTimerListener true

theorem Inv.starting (hinv : h.Inv) (htrace : h.trace = []) :
    h.listen.Starting ∧ h.listen.m_pTimer.m_nState = .inactive := by
  have hinactive := hinv.idle htrace
  refine ⟨⟨hinv.intervals, hinv.timer, ⟨rfl, rfl⟩, hinactive, ?_, hinv.indexed, hinv.quiet, ?_⟩,
    hinv.resting hinactive⟩
  · rw [show h.listen.trace = h.trace from rfl, htrace]
    rintro ⟨nResultCode, h'⟩
    cases h'
  · rw [show h.listen.trace = h.trace from rfl, htrace]
    rintro (h' | h')
    · cases h'
    · cases h'

theorem Starting.executeCmd (hstarting : h.Starting) (outcome : ExecuteOutcome) :
    h.executeCmd outcome =
      { h.log .execute with
        nOutstanding := if outcome.success ∧ outcome.completed = none then h.nOutstanding + 1
          else h.nOutstanding } := by
  unfold RetryTaskHelper.executeCmd
  cases hcompleted : outcome.completed with
  | none =>
      cases outcome.success with
      | true => rfl
      | false => rfl
  | some nResultCode =>
      change RetryTaskHelper.cmdCompleted (h.log .execute) nResultCode = _
      unfold RetryTaskHelper.cmdCompleted
      rw [if_pos (show (h.log .execute).bCmdListener = true from hstarting.listening.1),
        show (h.log .execute).onCompleted nResultCode = h.log .execute from
          if_pos hstarting.inactive,
        if_neg (fun h' => by cases h'.2)]
      rfl

theorem Starting.execute (hstarting : h.Starting) (nOutstanding : Nat) :
    { h.log .execute with nOutstanding }.Starting where
  intervals := hstarting.intervals
  timer := hstarting.timer
  listening := hstarting.listening
  inactive := hstarting.inactive
  reported := not_reported_cons hstarting.reported fun _ => TaskEvent.noConfusion
  indexed := hstarting.indexed.cons fun k hk => by cases hk
  quiet := hstarting.quiet.cons hstarting.reported
  ended hended := by
    rcases ended_cons.mp hended with h' | h' | h'
    · cases h'
    · cases h'
    · exact hstarting.ended h'

theorem Starting.armed (hstarting : h.Starting) (hstate : h.m_pTimer.m_nState ≠ .active) :
    h.armed.Starting where
  intervals := hstarting.intervals
  timer := rfl
  listening := hstarting.listening
  inactive := hstarting.inactive
  reported := not_reported_cons hstarting.reported fun _ => TaskEvent.noConfusion
  indexed := hstarting.indexed.cons fun k hk => by
    obtain rfl := TaskEvent.arm.inj hk
    exact tracker_lt hstarting.intervals hstarting.timer hstate
  quiet := hstarting.quiet.cons hstarting.reported
  ended hended := by
    rcases ended_cons.mp hended with h' | h' | h'
    · cases h'
    · cases h'
    · exact hstarting.ended h'

theorem Starting.succeeded (hstarting : h.Starting)
    (hwaits : h.m_pTimer.m_piTimer = true ∨ 0 < h.nOutstanding) :
    ({ h with m_nState := .active }.log (.started true)).Inv where
  intervals := hstarting.intervals
  timer := hstarting.timer
  listening _ := hstarting.listening
  resting hinactive := by cases hinactive
  silent h' :=
    absurd h' (not_reported_cons hstarting.reported fun _ => TaskEvent.noConfusion)
  indexed := hstarting.indexed.cons fun k hk => by cases hk
  quiet := ⟨False.elim, hstarting.quiet⟩
  ended hended := by
    rcases ended_cons.mp hended with h' | h' | h'
    · cases h'
    · cases h'
    · exact absurd h' hstarting.ended
  idle h' := absurd h' (List.cons_ne_nil _ _)
  fresh h' := absurd h' (List.cons_ne_nil _ _)
  waits _ _ := hwaits

theorem Starting.failed (hstarting : h.Starting) (hstate : h.m_pTimer.m_nState = .inactive) :
    (h.log (.started false)).Inv where
  intervals := hstarting.intervals
  timer := hstarting.timer
  listening _ := hstarting.listening
  resting _ := hstate
  silent _ := hstate
  indexed := hstarting.indexed.cons fun k hk => by cases hk
  quiet := ⟨False.elim, hstarting.quiet⟩
  ended _ := hstarting.inactive
  idle h' := absurd h' (List.cons_ne_nil _ _)
  fresh h' := absurd h' (List.cons_ne_nil _ _)
  waits hactive := absurd (hstarting.inactive.symm.trans hactive) TaskState.noConfusion

theorem start_of_inactive (hinactive : h.m_nState = .inactive) (mode : StartMode)
    (outcome : ExecuteOutcome) : h.start mode outcome = h.listen.startInMode mode outcome := by
  unfold start
  rw [if_neg (by rw [hinactive]; exact TaskState.noConfusion)]
  rfl

theorem Starting.startInMode (hstarting : h.Starting)
    (hstate : h.m_pTimer.m_nState = .inactive) (mode : StartMode) (outcome : ExecuteOutcome)
    (htimer : ¬ (mode = .timerNCommand ∧ outcome.success = false))
    (hcommand : ¬ (mode = .command ∧ outcome.success = true ∧ outcome.completed ≠ none)) :
    ((h.startInMode mode outcome).2.log (.started (h.startInMode mode outcome).1)).Inv := by
  have hne : h.m_pTimer.m_nState ≠ .active := by
    rw [hstate]
    exact TimerState.noConfusion
  have hexecuted := hstarting.executeCmd outcome
  unfold RetryTaskHelper.startInMode
  cases mode with
  | command =>
      dsimp only
      cases hsuccess : outcome.success with
      | false =>
          rw [if_pos (by rfl), hexecuted]
          exact (hstarting.execute _).failed hstate
      | true =>
          have hnone : outcome.completed = none :=
            Decidable.byContradiction fun h' => hcommand ⟨rfl, hsuccess, h'⟩
          rw [if_neg (by exact Bool.false_ne_true), hexecuted, if_pos ⟨hsuccess, hnone⟩]
          exact (hstarting.execute _).succeeded (.inr (Nat.succ_pos _))
  | commandNTimer =>
      dsimp only
      cases hsuccess : outcome.success with
      | false =>
          rw [if_pos (by rfl), hexecuted]
          exact (hstarting.execute _).failed hstate
      | true =>
          rw [if_neg (by exact Bool.false_ne_true), hexecuted]
          have hready := hstarting.execute
            (if outcome.success ∧ outcome.completed = none then h.nOutstanding + 1
              else h.nOutstanding)
          rw [timerStart_armed hready.intervals hne]
          exact (hready.armed hne).succeeded (.inl rfl)
  | timer =>
      dsimp only
      rw [timerStart_armed hstarting.intervals hne]
      exact (hstarting.armed hne).succeeded (.inl rfl)
  | timerNCommand =>
      have hsuccess : outcome.success = true := by
        rw [← Bool.not_eq_false]
        exact fun h' => htimer ⟨rfl, h'⟩
      have harmed := hstarting.armed hne
      dsimp only
      rw [timerStart_armed hstarting.intervals hne]
      dsimp only
      rw [if_neg (by exact Bool.false_ne_true), harmed.executeCmd outcome,
        if_neg (by rw [hsuccess]; exact Bool.false_ne_true)]
      exact (harmed.execute _).succeeded (.inl rfl)

theorem Inv.next (hinv : h.Inv) {input : TaskInput} (hallowed : h.Allowed input)
    (hoccurs : h.Occurs input) : (h.next input).Inv := by
  cases input with
  | start mode outcome =>
      obtain ⟨hstarting, hstate⟩ := hinv.starting hoccurs
      unfold RetryTaskHelper.next
      dsimp only
      rw [start_of_inactive (hinv.idle hoccurs)]
      exact hstarting.startInMode hstate mode outcome hallowed.1 hallowed.2
  | completed nResultCode =>
      exact (hinv.toBase.setOutstanding (h.nOutstanding - 1)).cmdCompleted hoccurs.1 hallowed
        nResultCode
  | expired outcome => exact hinv.toBase.timerExpired hoccurs.2 hallowed
  | terminate => exact hinv.toBase.terminated

theorem inv_new {bTimerOnCmdCompleted bRepeatable : Bool} {condition : Int → Bool}
    {objIntervals : List Nat} (hintervals : objIntervals ≠ []) :
    (new bTimerOnCmdCompleted bRepeatable condition objIntervals).Inv where
  intervals := hintervals
  timer := ⟨rfl, rfl⟩
  listening h' := by cases h'
  resting _ := rfl
  silent _ := rfl
  indexed k h' := by cases h'
  quiet := trivial
  ended _ := rfl
  idle _ := rfl
  fresh _ := rfl
  waits h' := by cases h'

/-! ### The steps that do not meet the condition -/

theorem Inv.not_sound_start (hinv : h.Inv) (htrace : h.trace = []) {mode : StartMode}
    {outcome : ExecuteOutcome} (hnot : ¬ h.Allowed (.start mode outcome)) :
    ¬ (h.next (.start mode outcome)).Sound := by
  obtain ⟨hstarting, hstate⟩ := hinv.starting htrace
  have hne : h.listen.m_pTimer.m_nState ≠ .active := by
    rw [hstate]
    exact TimerState.noConfusion
  unfold RetryTaskHelper.next
  dsimp only
  rw [start_of_inactive (hinv.idle htrace)]
  intro hsound
  refine hnot ⟨?_, ?_⟩
  · rintro ⟨rfl, hfailure⟩
    have harmed := hstarting.armed hne
    have hended := hsound.ended
    unfold RetryTaskHelper.startInMode at hended
    dsimp only at hended
    rw [timerStart_armed hstarting.intervals hne] at hended
    dsimp only at hended
    rw [if_neg (by exact Bool.false_ne_true), harmed.executeCmd outcome,
      if_pos (by rw [hfailure]; rfl)] at hended
    exact absurd (hended (.inl List.mem_cons_self)).symm Bool.false_ne_true
  · rintro ⟨rfl, hsuccess, hcompleted⟩
    have hgoes := hsound.goesOn
    unfold RetryTaskHelper.startInMode at hgoes
    dsimp only at hgoes
    rw [hstarting.executeCmd outcome, if_neg (by rw [hsuccess]; exact Bool.false_ne_true),
      if_neg (fun h' => hcompleted h'.2)] at hgoes
    have hnone := not_reported_cons (e := .started true)
      (hstarting.execute h.nOutstanding).reported fun _ => TaskEvent.noConfusion
    rcases hgoes rfl hnone with hpi | hwaiting
    · exact absurd (hpi.symm.trans (hinv.piTimer_of_inactive hstate)).symm Bool.false_ne_true
    · have hpositive : 0 < h.nOutstanding := hwaiting
      rw [hinv.fresh htrace] at hpositive
      exact absurd hpositive (Nat.lt_irrefl 0)

/-- A completion behind a report of an active task arms the timer or is a second result. -/
theorem Base.not_sound_cmdCompleted (hinv : h.Base) (hactive : h.m_nState = .active)
    (hreported : Reported h.trace) (nResultCode : Int) :
    ¬ (h.cmdCompleted nResultCode).Sound := by
  have hinactive := hinv.silent hreported
  unfold RetryTaskHelper.cmdCompleted
  rw [if_pos (hinv.listening hactive).1]
  intro hsound
  by_cases hretry : h.m_pCondition nResultCode = true
  · rw [onCompleted_retry hinv.intervals hactive hretry,
      if_neg (by rw [hinactive]; exact TimerState.noConfusion)] at hsound
    exact hsound.quiet.1 trivial hreported
  · rw [onCompleted_success hactive hretry] at hsound
    obtain ⟨t, hterminate, -, -, -⟩ := terminate_of_active hactive
    rw [hterminate] at hsound
    exact hsound.quiet.1 trivial hreported

theorem Expiring.not_sound_failure (hexp : h.Expiring) {outcome : ExecuteOutcome}
    (hfailure : outcome.success = false) {nResultCode : Int}
    (hcompleted : outcome.completed = some nResultCode)
    (hretry : h.m_pCondition nResultCode = false) : ¬ (h.interim outcome).Sound := by
  rw [interim_of_failure hexp hfailure, hexp.executeCmd_success hcompleted
    (by rw [hretry]; exact Bool.false_ne_true)]
  intro hsound
  exact hsound.quiet.1 trivial (reported_report _ _)

theorem Expiring.not_sound_pending (hexp : h.Expiring)
    (hbool : h.m_bTimerOnCmdCompleted = true) {outcome : ExecuteOutcome}
    (hsuccess : outcome.success = true) (hnone : h.nOutstanding = 0) {nResultCode : Int}
    (hcompleted : outcome.completed = some nResultCode)
    (hretry : h.m_pCondition nResultCode = true) : ¬ (h.interim outcome).Sound := by
  have hexecute := hexp.execute
  rw [interim_of_success hexp hsuccess, hexp.executeCmd_retry hcompleted hretry,
    if_neg (by rw [hexecute.active]; exact TaskState.noConfusion),
    if_pos (show (h.log .execute).m_bTimerOnCmdCompleted = true from hbool)]
  intro hsound
  rcases hsound.goesOn hexecute.active hexecute.reported with hpi | hwaiting
  · exact absurd (hexecute.piTimer.symm.trans hpi) Bool.false_ne_true
  · have hpositive : 0 < h.nOutstanding := hwaiting
    rw [hnone] at hpositive
    exact absurd hpositive (Nat.lt_irrefl 0)

theorem Inv.not_sound_expired (hinv : h.Inv) (hpi : h.m_pTimer.m_piTimer = true)
    {outcome : ExecuteOutcome} (hnot : ¬ h.Allowed (.expired outcome)) :
    ¬ (h.next (.expired outcome)).Sound := by
  obtain ⟨hbool, hcondition, houtstanding⟩ := beforeInterim_same h
  have hexp := hinv.toBase.expiring hpi
  intro hsound
  refine hnot fun hfinal => ?_
  rw [show h.next (.expired outcome) = h.timerExpired outcome from rfl,
    timerExpired_interim hinv.toBase hpi hfinal] at hsound
  constructor
  · rintro ⟨hfailure, nResultCode, hcompleted, hretry⟩
    exact hexp.not_sound_failure hfailure hcompleted (by rw [hcondition]; exact hretry) hsound
  · rintro ⟨hpending, hsuccess, hnone, nResultCode, hcompleted, hretry⟩
    exact hexp.not_sound_pending (hbool.trans hpending) hsuccess (houtstanding.trans hnone)
      hcompleted (by rw [hcondition]; exact hretry) hsound

/-- A step leaves a task as it is asked for exactly where it meets the condition. -/
theorem Inv.sound_next_iff (hinv : h.Inv) {input : TaskInput} (hoccurs : h.Occurs input) :
    (h.next input).Sound ↔ h.Allowed input := by
  constructor
  · intro hsound
    refine Classical.byContradiction fun hnot => ?_
    cases input with
    | start mode outcome => exact hinv.not_sound_start hoccurs hnot hsound
    | completed nResultCode =>
        obtain ⟨hactive, hreported⟩ := Classical.not_not.mp hnot
        exact (hinv.toBase.setOutstanding (h.nOutstanding - 1)).not_sound_cmdCompleted hactive
          hreported nResultCode hsound
    | expired outcome => exact hinv.not_sound_expired hoccurs.2 hnot hsound
    | terminate => exact hnot trivial
  · intro hallowed
    exact (hinv.next hallowed hoccurs).sound

end RetryTaskHelper

theorem inv_of_reachable {h : RetryTaskHelper}
    (hreachable : (retryTasks.restrict RetryTaskHelper.Allowed).Reachable h) : h.Inv := by
  refine hreachable.restrict_invariant ?_ ?_
  · rintro h ⟨_, _, _, _, hintervals, rfl⟩
    exact RetryTaskHelper.inv_new hintervals
  · rintro h input h' hinv hallowed ⟨hoccurs, rfl⟩
    exact hinv.next hallowed hoccurs

/-- In every run whose steps meet the condition a retry task is as it is asked for, and a further
step leaves it so exactly where it meets the condition too. -/
theorem retryTask_sound {h : RetryTaskHelper}
    (hreachable : (retryTasks.restrict RetryTaskHelper.Allowed).Reachable h) :
    h.Sound ∧ ∀ input, h.Occurs input → ((h.next input).Sound ↔ h.Allowed input) :=
  ⟨(inv_of_reachable hreachable).sound,
    fun _ hoccurs => (inv_of_reachable hreachable).sound_next_iff hoccurs⟩

/-- A task with one interval, which is retried on every code but zero. -/
def singleInterval : RetryTaskHelper := .new false false (fun nResultCode => nResultCode ≠ 0) [1000]

/-- It executes its command and starts its timer. -/
def singleStarted : RetryTaskHelper := singleInterval.next (.start .commandNTimer ⟨none, true⟩)

/-- The timer has expired before the command has completed. -/
def singleExpired : RetryTaskHelper := singleStarted.next (.expired ⟨none, true⟩)

theorem init_singleInterval : retryTasks.Init singleInterval :=
  ⟨false, false, _, [1000], List.cons_ne_nil _ _, rfl⟩

theorem retryTask_singleStarted : singleStarted.Sound ∧
    ∀ input, singleStarted.Occurs input →
      ((singleStarted.next input).Sound ↔ singleStarted.Allowed input) :=
  retryTask_sound (.step (.start .commandNTimer ⟨none, true⟩) (.init init_singleInterval)
    ⟨⟨fun h => StartMode.noConfusion h.1, fun h => StartMode.noConfusion h.1⟩, rfl, rfl⟩)

/-- The command completes after the timer has reported its end, and there is a second result. -/
theorem not_sound_singleExpired : ¬ ∀ h, retryTasks.Reachable h → h.Sound := by
  intro hsound
  have hstarted : retryTasks.Reachable singleStarted :=
    .step (.start .commandNTimer ⟨none, true⟩) (.init init_singleInterval) ⟨rfl, rfl⟩
  have hexpired : retryTasks.Reachable singleExpired :=
    .step (.expired ⟨none, true⟩) hstarted ⟨⟨List.cons_ne_nil _ _, rfl⟩, rfl⟩
  have hcompleted : retryTasks.Reachable (singleExpired.next (.completed 0)) :=
    .step (.completed 0) hexpired ⟨⟨List.cons_ne_nil _ _, Nat.one_pos⟩, rfl⟩
  exact (hsound _ hcompleted).quiet.1 trivial ⟨.nokTimerExpired, List.mem_cons_self⟩

end ImsStack.Retry
