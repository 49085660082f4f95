import ImsStack.Retry.RetryTaskHelper

/-!
What is asked of a retry task, the condition on its steps, and the invariant that completions and
`Terminate` keep.
-/

namespace ImsStack.Retry

open TransitionSystem

/-- A command is executed, a timer is armed or a result is reported. -/
def TaskEvent.IsAction : TaskEvent → Prop
  | .execute | .arm _ | .report _ => True
  | .started _ | .terminated => False

/-- A result has been reported. -/
def Reported (trace : List TaskEvent) : Prop := ∃ nResultCode, .report nResultCode ∈ trace

/-- Nothing is done behind a report. -/
def Quiet : List TaskEvent → Prop
  | [] => True
  | e :: trace => (e.IsAction → ¬ Reported trace) ∧ Quiet trace

/-- The timer is only armed with intervals that there are. -/
def Indexed (nSize : Nat) (trace : List TaskEvent) : Prop := ∀ k, .arm k ∈ trace → k < nSize

/-- `Start` has failed, or `Terminate` has been called. -/
def Ended (trace : List TaskEvent) : Prop := .started false ∈ trace ∨ .terminated ∈ trace

theorem reported_cons {e : TaskEvent} {trace : List TaskEvent} :
    Reported (e :: trace) ↔ (∃ nResultCode, e = .report nResultCode) ∨ Reported trace := by
  constructor
  · rintro ⟨nResultCode, h⟩
    rcases List.mem_cons.mp h with h | h
    · exact .inl ⟨nResultCode, h.symm⟩
    · exact .inr ⟨nResultCode, h⟩
  · rintro (⟨nResultCode, rfl⟩ | ⟨nResultCode, h⟩)
    · exact ⟨nResultCode, List.mem_cons_self⟩
    · exact ⟨nResultCode, List.mem_cons_of_mem _ h⟩

theorem reported_report (nResultCode : ResultCode) (trace : List TaskEvent) :
    Reported (.report nResultCode :: trace) := ⟨nResultCode, List.mem_cons_self⟩

theorem not_reported_cons {e : TaskEvent} {trace : List TaskEvent} (h : ¬ Reported trace)
    (he : ∀ nResultCode, e ≠ .report nResultCode) : ¬ Reported (e :: trace) := by
  rw [reported_cons]
  rintro (⟨nResultCode, h'⟩ | h')
  · exact he nResultCode h'
  · exact h h'

theorem Quiet.cons {e : TaskEvent} {trace : List TaskEvent} (h : Quiet trace)
    (hreported : ¬ Reported trace) : Quiet (e :: trace) := ⟨fun _ => hreported, h⟩

theorem Indexed.cons {nSize : Nat} {e : TaskEvent} {trace : List TaskEvent}
    (h : Indexed nSize trace) (he : ∀ k, e = .arm k → k < nSize) : Indexed nSize (e :: trace) := by
  intro k hk
  rcases List.mem_cons.mp hk with hk | hk
  · exact he k hk.symm
  · exact h k hk

theorem ended_cons {e : TaskEvent} {trace : List TaskEvent} :
    Ended (e :: trace) ↔ e = .started false ∨ e = .terminated ∨ Ended trace := by
  unfold Ended
  simp only [List.mem_cons]
  constructor
  · rintro ((h | h) | (h | h))
    · exact .inl h.symm
    · exact .inr (.inr (.inl h))
    · exact .inr (.inl h.symm)
    · exact .inr (.inr (.inr h))
  · rintro (h | h | h | h)
    · exact .inl (.inl h.symm)
    · exact .inr (.inl h.symm)
    · exact .inl (.inr h)
    · exact .inr (.inr h)

namespace RetryTaskHelper

/-- What is asked of a retry task at any time. -/
structure Sound (h : RetryTaskHelper) : Prop where
  goesOn : h.m_nState = .active → ¬ Reported h.trace →
    h.m_pTimer.m_piTimer = true ∨ 0 < h.nOutstanding
  indexed : Indexed h.m_pTimer.m_objIntervals.length h.trace
  quiet : Quiet h.trace
  reported : Reported h.trace → h.m_pTimer.m_piTimer = false
  ended : Ended h.trace → h.m_pTimer.m_piTimer = false

/-- The condition on a step: a task that starts a timer and a command does not fail on the command,
and one that starts a command alone does not complete it at once; no command completes while the
task is active behind a report; and a command that is executed again does not complete with
success and fail, nor complete to be retried before its timer waits for it. -/
def Allowed (h : RetryTaskHelper) : TaskInput → Prop
  | .start mode outcome =>
    ¬ (mode = .timerNCommand ∧ outcome.success = false) ∧
      ¬ (mode = .command ∧ outcome.success = true ∧ outcome.completed ≠ none)
  | .completed _ => ¬ (h.m_nState = .active ∧ Reported h.trace)
  | .expired outcome =>
    h.isFinal = false →
      ¬ (outcome.success = false ∧
          ∃ nResultCode ∈ outcome.completed, h.m_pCondition nResultCode = false) ∧
        ¬ (h.m_bTimerOnCmdCompleted = true ∧ outcome.success = true ∧ h.nOutstanding = 0 ∧
          ∃ nResultCode ∈ outcome.completed, h.m_pCondition nResultCode = true)
  | .terminate => True

/-- The timer by its state. -/
def TimerRests (t : RetryTimer) : Prop :=
  match t.m_nState with
  | .inactive => t.m_piTimer = false ∧ t.m_nTracker = 0
  | .pending => t.m_piTimer = false ∧ t.m_nTracker < t.m_objIntervals.length
  | .active => t.m_piTimer = true

/-- What the steps keep, apart from the commands that are outstanding. -/
structure Base (h : RetryTaskHelper) : Prop where
  intervals : h.m_pTimer.m_objIntervals ≠ []
  timer : TimerRests h.m_pTimer
  listening : h.m_nState = .active → h.bCmdListener = true ∧ h.m_pTimer.m_piListener = true
  resting : h.m_nState = .inactive → h.m_pTimer.m_nState = .inactive
  silent : Reported h.trace → h.m_pTimer.m_nState = .inactive
  indexed : Indexed h.m_pTimer.m_objIntervals.length h.trace
  quiet : Quiet h.trace
  ended : Ended h.trace → h.m_nState = .inactive
  idle : h.trace = [] → h.m_nState = .inactive

/-- What the steps keep. -/
structure Inv (h : RetryTaskHelper) : Prop extends Base h where
  fresh : h.trace = [] → h.nOutstanding = 0
  waits : h.m_nState = .active → ¬ Reported h.trace →
    h.m_pTimer.m_piTimer = true ∨ 0 < h.nOutstanding

variable {h : RetryTaskHelper}

theorem Base.piTimer_of_inactive (hinv : h.Base) (hstate : h.m_pTimer.m_nState = .inactive) :
    h.m_pTimer.m_piTimer = false := by
  have htimer := hinv.timer
  unfold TimerRests at htimer
  rw [hstate] at htimer
  exact htimer.1

theorem Inv.sound (hinv : h.Inv) : h.Sound where
  goesOn := hinv.waits
  indexed := hinv.indexed
  quiet := hinv.quiet
  reported hreported := hinv.piTimer_of_inactive (hinv.silent hreported)
  ended hended := hinv.piTimer_of_inactive (hinv.resting (hinv.ended hended))

/-! ### Starting and stopping the timer -/

/-- The task with its timer armed anew. -/
def armed (h : RetryTaskHelper) : RetryTaskHelper := h.startTimer.setTimerState .active

theorem timerStart_armed (hintervals : h.m_pTimer.m_objIntervals ≠ [])
    (hstate : h.m_pTimer.m_nState ≠ .active) : h.timerStart = (true, h.armed) := by
  unfold timerStart
  rw [if_neg hstate, if_neg (by rw [List.isEmpty_iff]; exact hintervals)]
  rfl

theorem timerResume_armed (hintervals : h.m_pTimer.m_objIntervals ≠ [])
    (hstate : h.m_pTimer.m_nState = .pending) : h.timerResume = (true, h.armed) := by
  unfold timerResume
  rw [if_neg (by rw [hstate]; exact TimerState.noConfusion), if_neg (fun h => h hstate),
    if_neg (by rw [List.isEmpty_iff]; exact hintervals)]
  rfl

theorem tracker_lt (hintervals : h.m_pTimer.m_objIntervals ≠ []) (htimer : TimerRests h.m_pTimer)
    (hstate : h.m_pTimer.m_nState ≠ .active) :
    h.m_pTimer.m_nTracker < h.m_pTimer.m_objIntervals.length := by
  unfold TimerRests at htimer
  cases htimerState : h.m_pTimer.m_nState with
  | inactive =>
      rw [htimerState] at htimer
      rw [htimer.2]
      exact List.length_pos_iff.mpr hintervals
  | pending =>
      rw [htimerState] at htimer
      exact htimer.2
  | active => exact absurd htimerState hstate

/-- `Terminate` of an active task: the listeners are taken away, and the timer is at its start. -/
theorem terminate_of_active (hactive : h.m_nState = .active) :
    ∃ t : RetryTimer,
      h.terminate = { h with m_nState := .inactive, bCmdListener := false, m_pTimer := t } ∧
        t.m_objIntervals = h.m_pTimer.m_objIntervals ∧ t.m_nState = .inactive ∧
          (TimerRests h.m_pTimer → TimerRests t) := by
  unfold terminate timerTerminate
  rw [if_neg (by rw [hactive]; exact TaskState.noConfusion)]
  dsimp only
  split
  · rename_i hinactive
    exact ⟨{ h.m_pTimer with m_piListener := false }, rfl, rfl, hinactive, id⟩
  · exact ⟨{ h.m_pTimer with
        m_piListener := false, m_piTimer := false, m_nTracker := 0, m_nState := .inactive },
      rfl, rfl, rfl, fun _ => ⟨rfl, rfl⟩⟩

theorem Base.armed (hinv : h.Base) (hactive : h.m_nState = .active)
    (hstate : h.m_pTimer.m_nState ≠ .active) (hreported : ¬ Reported h.trace) :
    h.armed.Inv where
  intervals := hinv.intervals
  timer := rfl
  listening := hinv.listening
  resting hinactive := by
    rw [show h.armed.m_nState = h.m_nState from rfl, hactive] at hinactive
    cases hinactive
  waits _ _ := .inl rfl
  silent h' := absurd h' (not_reported_cons hreported fun _ => TaskEvent.noConfusion)
  indexed := hinv.indexed.cons fun k hk => by
    obtain rfl := TaskEvent.arm.inj hk
    exact tracker_lt hinv.intervals hinv.timer hstate
  quiet := hinv.quiet.cons hreported
  ended hended := by
    rcases ended_cons.mp hended with h' | h' | h'
    · cases h'
    · cases h'
    · exact hinv.ended h'
  idle h' := absurd h' (List.cons_ne_nil _ _)
  fresh h' := absurd h' (List.cons_ne_nil _ _)

theorem Base.terminate_log (hinv : h.Base) (hactive : h.m_nState = .active) {e : TaskEvent}
    (hquiet : e.IsAction → ¬ Reported h.trace) (harm : ∀ k, e ≠ .arm k) :
    (h.terminate.log e).Inv := by
  obtain ⟨t, hterminate, hintervals, hstate, htimer⟩ := terminate_of_active hactive
  rw [hterminate]
  exact
    { intervals := fun hnil => hinv.intervals (hintervals.symm.trans hnil)
      timer := htimer hinv.timer
      listening := fun h' => by cases h'
      resting := fun _ => hstate
      waits := fun h' => by cases h'
      silent := fun _ => hstate
      indexed := by
        have hindexed := hinv.indexed
        rw [← hintervals] at hindexed
        exact hindexed.cons fun k hk => absurd hk (harm k)
      quiet := ⟨hquiet, hinv.quiet⟩
      ended := fun _ => rfl
      idle := fun h' => absurd h' (List.cons_ne_nil _ _)
      fresh := fun h' => absurd h' (List.cons_ne_nil _ _) }

theorem Base.succeeded (hinv : h.Base) (hactive : h.m_nState = .active)
    (hreported : ¬ Reported h.trace) : (h.terminate.callListener .ok).Inv :=
  hinv.terminate_log hactive (fun _ => hreported) fun _ => TaskEvent.noConfusion

theorem Base.terminated (hinv : h.Base) : (h.terminate.log .terminated).Inv := by
  cases hstate : h.m_nState with
  | active => exact hinv.terminate_log hstate False.elim fun _ => TaskEvent.noConfusion
  | inactive =>
      rw [show h.terminate = h from if_pos hstate]
      exact
        { intervals := hinv.intervals
          timer := hinv.timer
          listening := hinv.listening
          resting := hinv.resting
          waits := fun hactive => absurd (hstate.symm.trans hactive) TaskState.noConfusion
          silent := fun _ => hinv.resting hstate
          indexed := hinv.indexed.cons fun k hk => by cases hk
          quiet := ⟨False.elim, hinv.quiet⟩
          ended := fun _ => hstate
          idle := fun h' => absurd h' (List.cons_ne_nil _ _)
          fresh := fun h' => absurd h' (List.cons_ne_nil _ _) }

/-! ### A completion -/

theorem onCompleted_retry (hintervals : h.m_pTimer.m_objIntervals ≠ [])
    (hactive : h.m_nState = .active) {nResultCode : Int}
    (hretry : h.m_pCondition nResultCode = true) :
    h.onCompleted nResultCode =
      if h.m_pTimer.m_nState = .active then h else h.armed := by
  unfold onCompleted
  rw [if_neg (by rw [hactive]; exact TaskState.noConfusion), if_pos hretry]
  cases hstate : h.m_pTimer.m_nState with
  | inactive =>
      rw [timerStart_armed hintervals (by rw [hstate]; exact TimerState.noConfusion)]
      rfl
  | pending =>
      rw [timerResume_armed hintervals hstate]
      rfl
  | active => rfl

theorem onCompleted_success (hactive : h.m_nState = .active) {nResultCode : Int}
    (hretry : ¬ h.m_pCondition nResultCode = true) :
    h.onCompleted nResultCode = h.terminate.callListener .ok := by
  unfold onCompleted
  rw [if_neg (by rw [hactive]; exact TaskState.noConfusion), if_neg hretry]

theorem Base.piTimer_of_active (hinv : h.Base) (hstate : h.m_pTimer.m_nState = .active) :
    h.m_pTimer.m_piTimer = true := by
  have htimer := hinv.timer
  unfold TimerRests at htimer
  rw [hstate] at htimer
  exact htimer

theorem Base.setOutstanding (hinv : h.Base) (nOutstanding : Nat) :
    { h with nOutstanding }.Base :=
  ⟨hinv.intervals, hinv.timer, hinv.listening, hinv.resting, hinv.silent, hinv.indexed, hinv.quiet,
    hinv.ended, hinv.idle⟩

/-- A completion that does not come behind a report of an active task leaves what is kept, also if
nothing was outstanding any more. -/
theorem Base.cmdCompleted (hinv : h.Base) (htrace : h.trace ≠ [])
    (hreported : ¬ (h.m_nState = .active ∧ Reported h.trace)) (nResultCode : Int) :
    (h.cmdCompleted nResultCode).Inv := by
  have hinactive (hstate : h.m_nState = .inactive) : h.Inv :=
    { hinv with
      fresh := fun h' => absurd h' htrace
      waits := fun hactive => absurd (hstate.symm.trans hactive) TaskState.noConfusion }
  unfold RetryTaskHelper.cmdCompleted
  cases hstate : h.m_nState with
  | inactive =>
      split
      · rw [show h.onCompleted nResultCode = h from if_pos hstate]
        exact hinactive hstate
      · exact hinactive hstate
  | active =>
      have hnot : ¬ Reported h.trace := fun h' => hreported ⟨hstate, h'⟩
      rw [if_pos (hinv.listening hstate).1]
      by_cases hretry : h.m_pCondition nResultCode = true
      · rw [onCompleted_retry hinv.intervals hstate hretry]
        split
        · rename_i htimer
          exact
            { hinv with
              fresh := fun h' => absurd h' htrace
              waits := fun _ _ => .inl (hinv.piTimer_of_active htimer) }
        · rename_i htimer
          exact hinv.armed hstate htimer hnot
      · rw [onCompleted_success hstate hretry]
        exact hinv.succeeded hstate hnot

end RetryTaskHelper

end ImsStack.Retry
