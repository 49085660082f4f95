import ImsStack.Library.TransitionSystem

/-!
`RetryTaskHelper` and its `RetryTimer`, which call back into each other, with a command that
completes later or from inside `ExecuteCmd`.
-/

namespace ImsStack.Retry

open TransitionSystem

inductive TaskState where
  | inactive | active
  deriving DecidableEq, Repr

inductive TimerState where
  | inactive | pending | active
  deriving DecidableEq, Repr

/-- What `RetryTimer_OnInterimExpired` answers. -/
inductive TimerResult where
  | resultContinue | resultPending | resultStop
  deriving DecidableEq, Repr

inductive StartMode where
  | command | commandNTimer | timer | timerNCommand
  deriving DecidableEq, Repr

inductive ResultCode where
  | ok | nokTimerExpired | nokInternalOperation | nokCommandFailed
  deriving DecidableEq, Repr

/-- What a run shows. -/
inductive TaskEvent where
  | execute
  | arm (nIndex : Nat)
  | report (nResultCode : ResultCode)
  | started (bResult : Bool)
  | terminated
  deriving DecidableEq, Repr

/-- `RetryTimer`; `m_piTimer` tells whether a platform timer is armed. -/
structure RetryTimer where
  m_nState : TimerState
  m_piTimer : Bool
  m_nTracker : Nat
  m_objIntervals : List Nat
  m_bRepeatable : Bool
  m_piListener : Bool
  deriving DecidableEq, Repr

/-- `RetryTaskHelper` with its command, condition and timer, the number of executed commands that
have not completed, and what has happened, the latest first. -/
structure RetryTaskHelper where
  m_nState : TaskState
  m_bTimerOnCmdCompleted : Bool
  m_pCondition : Int → Bool
  m_pTimer : RetryTimer
  bCmdListener : Bool
  nOutstanding : Nat
  trace : List TaskEvent

/-- How `ExecuteCmd` ends: the code it completes with before it returns, if it does, and whether it
returns success. -/
structure ExecuteOutcome where
  completed : Option Int
  success : Bool
  deriving DecidableEq, Repr

namespace RetryTaskHelper

def log (h : RetryTaskHelper) (e : TaskEvent) : RetryTaskHelper := { h with trace := e :: h.trace }

def setTimer (h : RetryTaskHelper) (m_pTimer : RetryTimer) : RetryTaskHelper := { h with m_pTimer }

/-! ### `RetryTimer` -/

/-- `StartTimer`: a timer is armed with the interval at the tracker. -/
def startTimer (h : RetryTaskHelper) : RetryTaskHelper :=
  (h.log (.arm h.m_pTimer.m_nTracker)).setTimer
    { h.m_pTimer with m_piTimer := true, m_nTracker := h.m_pTimer.m_nTracker + 1 }

def setTimerState (h : RetryTaskHelper) (m_nState : TimerState) : RetryTaskHelper :=
  h.setTimer { h.m_pTimer with m_nState }

/-- `RetryTimer::Start`. -/
def timerStart (h : RetryTaskHelper) : Bool × RetryTaskHelper :=
  if h.m_pTimer.m_nState = .active then (true, h)
  else if h.m_pTimer.m_objIntervals.isEmpty then (false, h)
  else (true, h.startTimer.setTimerState .active)

/-- `RetryTimer::Resume`. -/
def timerResume (h : RetryTaskHelper) : Bool × RetryTaskHelper :=
  if h.m_pTimer.m_nState = .active then (true, h)
  else if h.m_pTimer.m_nState ≠ .pending then (false, h)
  else if h.m_pTimer.m_objIntervals.isEmpty then (false, h)
  else (true, h.startTimer.setTimerState .active)

/-- The timer without a platform timer and with its first interval next. -/
def stopTimer (h : RetryTaskHelper) : RetryTaskHelper :=
  h.setTimer { h.m_pTimer with m_piTimer := false, m_nTracker := 0, m_nState := .inactive }

/-- `RetryTimer::Terminate`. -/
def timerTerminate (h : RetryTaskHelper) : RetryTaskHelper :=
  if h.m_pTimer.m_nState = .inactive then h else h.stopTimer

/-! ### `RetryTaskHelper` -/

def callListener (h : RetryTaskHelper) (nResultCode : ResultCode) : RetryTaskHelper :=
  h.log (.report nResultCode)

def setTimerListener (h : RetryTaskHelper) (m_piListener : Bool) : RetryTaskHelper :=
  h.setTimer { h.m_pTimer with m_piListener }

/-- `RetryTaskHelper::Terminate`. -/
def terminate (h : RetryTaskHelper) : RetryTaskHelper :=
  if h.m_nState = .inactive then h
  else
    let h := { h with bCmdListener := false }
    let h := (h.setTimerListener false).timerTerminate
    { h with m_nState := .inactive }

/-- `RetryCmd_OnCompleted`. -/
def onCompleted (h : RetryTaskHelper) (nResultCode : Int) : RetryTaskHelper :=
  if h.m_nState = .inactive then h
  else if h.m_pCondition nResultCode then
    match h.m_pTimer.m_nState with
    | .inactive =>
      let started := h.timerStart
      if started.1 then started.2 else started.2.callListener .nokInternalOperation
    | .pending =>
      let resumed := h.timerResume
      if resumed.1 then resumed.2 else resumed.2.callListener .nokInternalOperation
    | .active => h
  else h.terminate.callListener .ok

/-- A command completes; without a listener nobody hears of it. -/
def cmdCompleted (h : RetryTaskHelper) (nResultCode : Int) : RetryTaskHelper :=
  if h.bCmdListener then h.onCompleted nResultCode else h

def executeCmd (h : RetryTaskHelper) (outcome : ExecuteOutcome) : RetryTaskHelper :=
  let h := h.log .execute
  match outcome.completed with
  | some nResultCode => h.cmdCompleted nResultCode
  | none => if outcome.success then { h with nOutstanding := h.nOutstanding + 1 } else h

/-- `RetryTimer_OnInterimExpired`. -/
def onInterimExpired (h : RetryTaskHelper) (outcome : ExecuteOutcome) :
    TimerResult × RetryTaskHelper :=
  if h.m_nState = .inactive then (.resultStop, h)
  else
    let h := h.executeCmd outcome
    if !outcome.success then (.resultStop, h.callListener .nokInternalOperation)
    else if h.m_nState = .inactive then (.resultStop, h)
    else if h.m_bTimerOnCmdCompleted then (.resultPending, h)
    else (.resultContinue, h)

/-- `RetryTimer_OnFinalExpired`. -/
def onFinalExpired (h : RetryTaskHelper) : RetryTaskHelper :=
  if h.m_nState = .inactive then h else h.callListener .nokTimerExpired

/-- The intervals are used up, and the last one is not repeated. -/
def isFinal (h : RetryTaskHelper) : Bool :=
  h.m_pTimer.m_objIntervals.length ≤ h.m_pTimer.m_nTracker && !h.m_pTimer.m_bRepeatable

/-- The tracker for the next interval, which is the last one again where they are used up. -/
def repeatLast (h : RetryTaskHelper) : RetryTaskHelper :=
  if h.m_pTimer.m_objIntervals.length ≤ h.m_pTimer.m_nTracker then
    h.setTimer { h.m_pTimer with m_nTracker := h.m_pTimer.m_objIntervals.length - 1 }
  else h

/-- `Timer_TimerExpired` of the armed timer. -/
def timerExpired (h : RetryTaskHelper) (outcome : ExecuteOutcome) : RetryTaskHelper :=
  let bFinal := h.isFinal
  let h := h.setTimer { h.m_pTimer with m_piTimer := false }
  if bFinal then
    let h := h.stopTimer
    if h.m_pTimer.m_piListener then h.onFinalExpired else h
  else
    let h := h.repeatLast
    if h.m_pTimer.m_piListener then
      let expired := h.onInterimExpired outcome
      match expired.1 with
      | .resultContinue => expired.2.startTimer
      | .resultPending => expired.2.setTimerState .pending
      | .resultStop => expired.2.stopTimer
    else h.startTimer

/-- `RetryTaskHelper::Start` in the inactive state. -/
def startInMode (h : RetryTaskHelper) (mode : StartMode) (outcome : ExecuteOutcome) :
    Bool × RetryTaskHelper :=
  match mode with
  | .commandNTimer =>
    let h := h.executeCmd outcome
    if !outcome.success then (false, h)
    else
      let started := h.timerStart
      if !started.1 then (false, started.2) else (true, { started.2 with m_nState := .active })
  | .timer =>
    let started := h.timerStart
    if !started.1 then (false, started.2) else (true, { started.2 with m_nState := .active })
  | .timerNCommand =>
    let started := h.timerStart
    if !started.1 then (false, started.2)
    else
      let h := started.2.executeCmd outcome
      if !outcome.success then (false, h) else (true, { h with m_nState := .active })
  | .command =>
    let h := h.executeCmd outcome
    if !outcome.success then (false, h) else (true, { h with m_nState := .active })

/-- `RetryTaskHelper::Start`. -/
def start (h : RetryTaskHelper) (mode : StartMode) (outcome : ExecuteOutcome) :
    Bool × RetryTaskHelper :=
  if h.m_nState = .active then (true, h)
  else ({ h with bCmdListener := true }.setTimerListener true).startInMode mode outcome

/-- A helper with a timer and nothing started. -/
def new (bTimerOnCmdCompleted bRepeatable : Bool) (condition : Int → Bool)
    (objIntervals : List Nat) : RetryTaskHelper where
  m_nState := .inactive
  m_bTimerOnCmdCompleted := bTimerOnCmdCompleted
  m_pCondition := condition
  m_pTimer := ⟨.inactive, false, 0, objIntervals, bRepeatable, false⟩
  bCmdListener := false
  nOutstanding := 0
  trace := []

end RetryTaskHelper

/-! ### Runs -/

/-- What happens to a retry task. -/
inductive TaskInput where
  | start (mode : StartMode) (outcome : ExecuteOutcome)
  | completed (nResultCode : Int)
  | expired (outcome : ExecuteOutcome)
  | terminate
  deriving DecidableEq, Repr

namespace RetryTaskHelper

/-- The input can occur: a task is started once and before all else, a command completes that is
outstanding, a timer expires that is armed. -/
def Occurs (h : RetryTaskHelper) : TaskInput → Prop
  | .start _ _ => h.trace = []
  | .completed _ => h.trace ≠ [] ∧ 0 < h.nOutstanding
  | .expired _ => h.trace ≠ [] ∧ h.m_pTimer.m_piTimer = true
  | .terminate => h.trace ≠ []

def next (h : RetryTaskHelper) : TaskInput → RetryTaskHelper
  | .start mode outcome =>
    let started := h.start mode outcome
    started.2.log (.started started.1)
  | .completed nResultCode =>
    { h with nOutstanding := h.nOutstanding - 1 }.cmdCompleted nResultCode
  | .expired outcome => h.timerExpired outcome
  | .terminate => h.terminate.log .terminated

end RetryTaskHelper

/-- The runs of a task whose timer has an interval at least. -/
def retryTasks : System RetryTaskHelper TaskInput where
  Init h := ∃ bTimerOnCmdCompleted bRepeatable condition objIntervals, objIntervals ≠ [] ∧
    h = .new bTimerOnCmdCompleted bRepeatable condition objIntervals
  Step h input h' := h.Occurs input ∧ h' = h.next input

end ImsStack.Retry
