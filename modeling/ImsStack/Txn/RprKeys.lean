import ImsStack.Txn.KeyChanges

/-!
The keys of reliable provisional responses over the life of an INVITE transaction:
the stack's global list of keys with a mark on those the transaction has added.
-/

namespace ImsStack.Txn.RprKeys

open TransitionSystem

/-- A stack whose list of keys is marked, and whether `TerminateTxn` has aborted the
transaction. -/
structure KeyRun (σ : Type) where
  stack : SipStack σ
  marked : MarkedKeys
  aborted : Bool

/-- What can happen to the transaction and to the list of keys. -/
inductive KeyEvent (ε : Type) where
  /-- A message sent by the user, a message received or a transport error. -/
  | invokeFsm (event : ε)
  | timerExpired (timer : RunningTimer)
  /-- `TerminateTxn`: the user aborts the transaction, or a message of it cannot be
  sent. -/
  | terminateTxn
  /-- Other transactions change the list of keys. -/
  | otherTxns (changes : List KeyChange)
  /-- A PRACK request arrives and opens a transaction of its own. -/
  | prackReceived (newTxnKey : SipTxnKey)
  | msgSent (transpInfo : Option TranspProtocol)
  | updateSipTimers (context : SipTimerContext)
  | removeTxn

variable {σ ε : Type}

/-- What the callback of an expired timer does to the keys. -/
def callbackKeyChanges (m : KeyMachine σ ε) (timer : RunningTimer) (s : SipStack σ) :
    List KeyChange :=
  if s.inTxnPool = true ∧ some timer.id = s.txn.timerId ∧
      m.fsm.isTerminated s.txn.txnState = false then
    match m.fsm.timeoutEvent timer.timerType with
    | none => []
    | some event => m.keyChanges event s
  else []

/-- What the arrival of a PRACK request does to the keys on behalf of the INVITE
server transaction. -/
def prackKeyChanges (newTxnKey : SipTxnKey) (s : SipStack σ) : List KeyChange :=
  match searchTxnKey s.txnKeyList newTxnKey with
  | none => []
  | some invTxnKey =>
    if s.inTxnPool && s.txn.txnKey.compareKeys invTxnKey then [.delete newTxnKey true] else []

/-- The steps of a run.  A message reaches the transaction when it is created and
later through the pool, and a response only if its key fetches it. -/
inductive KeyStep (m : KeyMachine σ ε) (txnType : TxnType) :
    KeyRun σ → KeyEvent ε → KeyRun σ → Prop where
  | invokeFsm (s : SipStack σ) (marked : MarkedKeys) (aborted : Bool) (event : ε) :
      m.fsm.isTimeout event = false →
      s.inTxnPool = true ∨ s.txn.txnState = m.idle ∧ aborted = false → m.matched event s →
      KeyStep m txnType ⟨s, marked, aborted⟩ (.invokeFsm event)
        ⟨(m.fsm.invokeFsm event s).stack,
          applyMarkedChanges true (m.keyChanges event s) marked, aborted⟩
  | timerExpired (s : SipStack σ) (marked : MarkedKeys) (aborted : Bool) (timer : RunningTimer) :
      timer ∈ s.runningTimers →
      KeyStep m txnType ⟨s, marked, aborted⟩ (.timerExpired timer)
        ⟨(m.fsm.expire timer s).1,
          applyMarkedChanges true (callbackKeyChanges m timer s) marked, aborted⟩
  | terminateTxn (s : SipStack σ) (marked : MarkedKeys) (aborted : Bool) :
      s.inTxnPool = true →
      KeyStep m txnType ⟨s, marked, aborted⟩ .terminateTxn
        ⟨s.removeFromTxnPool.stopTxnTimer.deleteKeys s.txn.txnKey true,
          applyMarkedChanges true [.delete s.txn.txnKey true] marked, true⟩
  | otherTxns (s : SipStack σ) (marked : MarkedKeys) (aborted : Bool)
      (changes : List KeyChange) :
      KeyStep m txnType ⟨s, marked, aborted⟩ (.otherTxns changes)
        ⟨{ s with txnKeyList := applyChanges changes s.txnKeyList },
          applyMarkedChanges false changes marked, aborted⟩
  | prackReceived (s : SipStack σ) (marked : MarkedKeys) (aborted : Bool)
      (newTxnKey : SipTxnKey) :
      txnType = .inviteServer →
      KeyStep m txnType ⟨s, marked, aborted⟩ (.prackReceived newTxnKey)
        ⟨s.prackReceived newTxnKey,
          applyMarkedChanges true (prackKeyChanges newTxnKey s) marked, aborted⟩
  | msgSent (s : SipStack σ) (marked : MarkedKeys) (aborted : Bool)
      (transpInfo : Option TranspProtocol) :
      KeyStep m txnType ⟨s, marked, aborted⟩ (.msgSent transpInfo)
        ⟨s.mapTxn fun txn => { txn with transpInfo := transpInfo }, marked, aborted⟩
  | updateSipTimers (s : SipStack σ) (marked : MarkedKeys) (aborted : Bool)
      (options : TimerType → Bool) (values : SipTimerValues) :
      values.Positive →
      KeyStep m txnType ⟨s, marked, aborted⟩
        (.updateSipTimers ⟨options, values.toTxnTimerValues⟩)
        ⟨s.mapTxn fun txn => { txn with
          txnTimerValues :=
            txn.txnTimerValues.updateSipTimers ⟨options, values.toTxnTimerValues⟩ },
          marked, aborted⟩
  | removeTxn (s : SipStack σ) (marked : MarkedKeys) (aborted : Bool) :
      m.fsm.isTerminated s.txn.txnState →
      KeyStep m txnType ⟨s, marked, aborted⟩ .removeTxn ⟨s.removeFromTxnPool, marked, aborted⟩

/-- The runs of an INVITE transaction from its creation, with any keys of others in
the list. -/
def keySystem (m : KeyMachine σ ε) (txnType : TxnType) : System (KeyRun σ) (KeyEvent ε) where
  Init r := ∃ key values keys nextTimerId, SipTimerValues.Positive values ∧
    key.method = some methodInvite ∧
    r.stack = newStack (newTxn m.idle key values.toTxnTimerValues) keys nextTimerId ∧
    r.marked = keys.map (·, false) ∧ r.aborted = false
  Step := KeyStep m txnType

/-- The transaction no longer exists. -/
def Ended (m : KeyMachine σ ε) (r : KeyRun σ) : Prop :=
  m.fsm.isTerminated r.stack.txn.txnState = true ∨ r.aborted = true

/-- None of the keys in the list has been added by the transaction. -/
def NoKeyLeft (r : KeyRun σ) : Prop :=
  r.marked.map Prod.fst = r.stack.txnKeyList ∧ ∀ key, (key, true) ∉ r.marked

/-- The condition on a step: it does not forget keys the transaction holds.  A step
that leaves the keys behind finds none, and an abort finds only keys without another
To-tag than the transaction's. -/
def Remembers (m : KeyMachine σ ε) (r : KeyRun σ) : KeyEvent ε → Prop
  | .invokeFsm event => m.forgets event r.stack.txn.txnState → ∀ key, (key, true) ∉ r.marked
  | .terminateTxn =>
    ∀ key, (key, true) ∈ r.marked → deletes r.stack.txn.txnKey true key = true
  | _ => True

section Marks

variable {key : SipTxnKey}

theorem deletes_setRSeq (userKey : SipTxnKey) (checkToTag : Bool) (key : SipTxnKey) (rSeq : Nat) :
    deletes userKey checkToTag { key with rSeqNum := rSeq } = deletes userKey checkToTag key := by
  simp [deletes, SipTxnKey.compareKeysForRPR]

theorem deletes_false {userKey : SipTxnKey} {checkToTag : Bool}
    (h : deletes userKey checkToTag key = true) : deletes userKey false key = true := by
  simp only [deletes, SipTxnKey.compareKeysForRPR, Bool.and_eq_true] at h ⊢
  exact ⟨⟨h.1.1, by simp⟩, by simp⟩

/-- What holds of the transaction's keys before some changes and of those it adds
holds of all its keys afterwards. -/
theorem own_applyMarkedChanges {P : SipTxnKey → Prop}
    (hrSeq : ∀ key rSeq, P key → P { key with rSeqNum := rSeq }) (own : Bool)
    (changes : List KeyChange) {marked : MarkedKeys} (hmarked : ∀ key, (key, true) ∈ marked → P key)
    (hadd : own = true → ∀ key, .add key ∈ changes → P key) :
    ∀ key, (key, true) ∈ applyMarkedChanges own changes marked → P key := by
  induction changes generalizing marked with
  | nil => exact hmarked
  | cons change changes ih =>
      refine ih ?_ fun hown key hmem => hadd hown key (List.mem_cons_of_mem _ hmem)
      intro key hmem
      cases change with
      | add key' =>
          rcases List.mem_append.mp hmem with hmem | hmem
          · exact hmarked key hmem
          · obtain ⟨rfl, rfl⟩ : key = key' ∧ true = own := by simpa using hmem
            exact hadd rfl key List.mem_cons_self
      | delete userKey checkToTag => exact hmarked key (List.mem_of_mem_filter hmem)
      | setRSeq found rSeq =>
          rcases KeyChange.mem_setMarkedRSeq hmem with hmem | ⟨old, hold, heq⟩
          · exact hmarked key hmem
          · rw [show key = { old with rSeqNum := rSeq } from heq]
            exact hrSeq old rSeq (hmarked old hold)

theorem own_applyMarked_delete {userKey : SipTxnKey} {checkToTag : Bool} {marked : MarkedKeys}
    (h : ∀ key, (key, true) ∈ marked → deletes userKey checkToTag key = true) (key : SipTxnKey) :
    (key, true) ∉ applyMarkedChanges true [.delete userKey checkToTag] marked := by
  intro hmem
  obtain ⟨hmem, hkept⟩ := List.mem_filter.mp hmem
  simp [h key hmem] at hkept

end Marks

/-- What has to be shown of an INVITE state machine. -/
structure KeyDiscipline (m : KeyMachine σ ε) : Prop where
  spec : ∀ immediate event s, s.txn.txnTimerValues.InRange → m.matched event s →
    s.txn.txnKey.method = some methodInvite →
    (s.txn.txnState ≠ m.idle → s.txn.txnKey.copy.isSome = true) →
    KeySpec m event s (m.fsm.invoke immediate event s).stack
  timeout : ∀ timer event (s : SipStack σ), m.fsm.timeoutEvent timer = some event →
    m.matched event s ∧ ¬ m.forgets event s.txn.txnState
  frame : ∀ event s, m.keyChanges event
    (s.increment.mapTxn fun txn => { txn with timerId := none }) = m.keyChanges event s
  drop : ∀ event s timer, m.keyChanges event (s.dropTimer timer) = m.keyChanges event s
  idle_holds : m.holdsKeys m.idle = false
  holds_live : ∀ state, m.holdsKeys state = true → m.fsm.isTerminated state = false

/-- What every run keeps true: the keys of the transaction are ones it deletes, and
it holds them only in the states that delete them before the end. -/
structure KeyInv (m : KeyMachine σ ε) (r : KeyRun σ) : Prop where
  values : r.stack.txn.txnTimerValues.InRange
  method : r.stack.txn.txnKey.method = some methodInvite
  copied : r.stack.txn.txnState ≠ m.idle → r.stack.txn.txnKey.copy.isSome = true
  marks : r.marked.map Prod.fst = r.stack.txnKeyList
  aborted : r.aborted = true → r.stack.inTxnPool = false
  own : ∀ key, (key, true) ∈ r.marked →
    deletes r.stack.txn.txnKey m.checkToTag key = true ∧
      m.holdsKeys r.stack.txn.txnState = true ∧ r.aborted = false

section Invariant

variable {m : KeyMachine σ ε} {s s' : SipStack σ} {marked : MarkedKeys} {aborted : Bool}

theorem KeyInv.live (h : KeyInv m ⟨s, marked, aborted⟩)
    (hin : s.inTxnPool = true ∨ s.txn.txnState = m.idle ∧ aborted = false) :
    aborted = false := by
  rcases hin with hpool | ⟨-, hlive⟩
  · by_contra haborted
    have hout : s.inTxnPool = false := h.aborted (by simpa using haborted)
    rw [hout] at hpool
    exact Bool.false_ne_true hpool
  · exact hlive

/-- The invariant reads nothing of the stack but the keys, the timer values, the state
and the pool. -/
theorem KeyInv.congr (h : KeyInv m ⟨s, marked, aborted⟩)
    (hframe : KeyFrame s s.txnKeyList s') (hstate : s'.txn.txnState = s.txn.txnState)
    (hpool : s'.inTxnPool = true → s.inTxnPool = true) : KeyInv m ⟨s', marked, aborted⟩ where
  values := hframe.txnTimerValues ▸ h.values
  method := hframe.txnKey ▸ h.method
  copied hidle := by
    change s'.txn.txnKey.copy.isSome = true
    rw [hframe.txnKey]
    exact h.copied fun hs => hidle (hstate.trans hs)
  marks := h.marks.trans hframe.txnKeyList.symm
  aborted haborted := by
    have hout : s.inTxnPool = false := h.aborted haborted
    by_contra hin
    rw [hpool (by simpa using hin)] at hout
    exact Bool.false_ne_true hout.symm
  own key hmem := by
    change deletes s'.txn.txnKey m.checkToTag key = true ∧ m.holdsKeys s'.txn.txnState = true ∧ _
    rw [hframe.txnKey, hstate]
    exact h.own key hmem

theorem KeyInv.applyChanges (h : KeyInv m ⟨s, marked, aborted⟩) (own : Bool)
    (changes : List KeyChange) (hadd : own = true → ∀ key, .add key ∉ changes) :
    KeyInv m ⟨{ s with txnKeyList := applyChanges changes s.txnKeyList },
      applyMarkedChanges own changes marked, aborted⟩ where
  values := h.values
  method := h.method
  copied := h.copied
  marks := by
    have hmarks : marked.map Prod.fst = s.txnKeyList := h.marks
    change (applyMarkedChanges own changes marked).map Prod.fst = _
    rw [map_applyMarkedChanges, hmarks]
  aborted := h.aborted
  own := by
    refine own_applyMarkedChanges (P := fun key => deletes s.txn.txnKey m.checkToTag key = true ∧
      m.holdsKeys s.txn.txnState = true ∧ aborted = false) ?_ own changes h.own ?_
    · intro key rSeq hkey
      rw [deletes_setRSeq]
      exact hkey
    · intro hown key hmem
      exact absurd hmem (hadd hown key)

/-- The transaction's keys after an action that does what its specification says and
forgets none. -/
theorem own_of_keySpec (h : KeyInv m ⟨s, marked, false⟩) {event : ε}
    (hspec : KeySpec m event s s')
    (hforgets : m.forgets event s.txn.txnState → ∀ key, (key, true) ∉ marked) (key : SipTxnKey)
    (hmem : (key, true) ∈ applyMarkedChanges true (m.keyChanges event s) marked) :
    deletes s.txn.txnKey m.checkToTag key = true ∧ m.holdsKeys s'.txn.txnState = true := by
  cases hspec.outcome with
  | kept hholds hadd =>
      refine ⟨?_, hholds⟩
      refine own_applyMarkedChanges (P := fun key => deletes s.txn.txnKey m.checkToTag key = true)
        (fun key rSeq hkey => ?_) true (m.keyChanges event s) (fun key hmem => (h.own key hmem).1)
        (fun _ => hadd) key hmem
      rw [deletes_setRSeq]
      exact hkey
  | cleared hchanges =>
      rw [hchanges] at hmem
      exact absurd hmem
        (own_applyMarked_delete (fun key hmem => deletes_false (h.own key hmem).1) key)
  | none hchanges hholds =>
      rw [hchanges] at hmem
      exact absurd (hholds.symm.trans (h.own key hmem).2.1) Bool.false_ne_true
  | forgotten hchanges hforgotten =>
      rw [hchanges] at hmem
      exact absurd hmem (hforgets hforgotten key)

theorem keyInv_of_keySpec (h : KeyInv m ⟨s, marked, false⟩) {event : ε}
    (hspec : KeySpec m event s s')
    (hforgets : m.forgets event s.txn.txnState → ∀ key, (key, true) ∉ marked) :
    KeyInv m ⟨s', applyMarkedChanges true (m.keyChanges event s) marked, false⟩ := by
  have hkey : s'.txn.txnKey = s.txn.txnKey := hspec.frame.txnKey
  refine ⟨?_, ?_, fun hidle => ?_, ?_, nofun, fun key hmem => ?_⟩
  · exact hspec.frame.txnTimerValues ▸ h.values
  · rw [hkey]
    exact h.method
  · rw [hkey]
    rcases hspec.copied hidle with hstate | hcopy
    · exact h.copied hstate
    · exact hcopy
  · change (applyMarkedChanges true (m.keyChanges event s) marked).map Prod.fst = s'.txnKeyList
    rw [map_applyMarkedChanges, hspec.frame.txnKeyList]
    exact congrArg _ h.marks
  · obtain ⟨hdeletes, hholds⟩ := own_of_keySpec h hspec hforgets key hmem
    change deletes s'.txn.txnKey m.checkToTag key = true ∧ _
    rw [hkey]
    exact ⟨hdeletes, hholds, rfl⟩

theorem removeFromTxnPool_keyFrame (s : SipStack σ) :
    KeyFrame s s.txnKeyList s.removeFromTxnPool := by
  unfold SipStack.removeFromTxnPool
  split <;> exact ⟨rfl, rfl, rfl⟩

theorem removeFromTxnPool_inTxnPool (s : SipStack σ) : s.removeFromTxnPool.inTxnPool = false := by
  unfold SipStack.removeFromTxnPool
  split
  · rfl
  · rename_i hpool
    simpa using hpool

theorem KeyInv.removeFromTxnPool (h : KeyInv m ⟨s, marked, aborted⟩) :
    KeyInv m ⟨s.removeFromTxnPool, marked, aborted⟩ := by
  refine h.congr (removeFromTxnPool_keyFrame s) (RefDiscipline.removeFromTxnPool_txnState s) ?_
  rw [removeFromTxnPool_inTxnPool]
  nofun

theorem keyInv_init {txnType : TxnType} {r : KeyRun σ}
    (h : (keySystem m txnType).Init r) : KeyInv m r := by
  obtain ⟨key, values, keys, nextTimerId, hpos, hmethod, hstack, hmarked, haborted⟩ := h
  obtain ⟨s, marked, aborted⟩ := r
  subst hstack hmarked haborted
  refine ⟨hpos.inRange, hmethod, fun hidle => absurd rfl hidle, ?_, nofun, fun key hmem => ?_⟩
  · change (keys.map (·, false)).map Prod.fst = keys
    rw [List.map_map]
    exact List.map_id keys
  · simp at hmem

theorem keyInv_expire (d : KeyDiscipline m) (h : KeyInv m ⟨s, marked, aborted⟩)
    (timer : RunningTimer) :
    KeyInv m ⟨(m.fsm.expire timer s).1,
      applyMarkedChanges true (callbackKeyChanges m timer s) marked, aborted⟩ := by
  have hdropped : KeyInv m ⟨s.dropTimer timer, marked, aborted⟩ := h.congr ⟨rfl, rfl, rfl⟩ rfl id
  by_cases haction : (s.dropTimer timer).inTxnPool = true ∧
      some timer.id = (s.dropTimer timer).txn.timerId ∧
      m.fsm.isTerminated (s.dropTimer timer).txn.txnState = false ∧
      ∃ event, m.fsm.timeoutEvent timer.timerType = some event
  · obtain ⟨hpool, hid, hlive, event, hevent⟩ := haction
    have hchanges : callbackKeyChanges m timer s = m.keyChanges event
        ((s.dropTimer timer).increment.mapTxn fun txn => { txn with timerId := none }) := by
      have hcond : s.inTxnPool = true ∧ some timer.id = s.txn.timerId ∧
          m.fsm.isTerminated s.txn.txnState = false := ⟨hpool, hid, hlive⟩
      rw [d.frame, d.drop, callbackKeyChanges, if_pos hcond, hevent]
    obtain rfl : aborted = false := h.live (.inl hpool)
    have hstarted : KeyInv m ⟨(s.dropTimer timer).increment.mapTxn
        (fun txn => { txn with timerId := none }), marked, false⟩ :=
      hdropped.congr ⟨rfl, rfl, rfl⟩ rfl id
    obtain ⟨hmatched, hforgets⟩ := d.timeout timer.timerType event
      ((s.dropTimer timer).increment.mapTxn fun txn => { txn with timerId := none }) hevent
    have hspec := d.spec (fun timer s => (cbkTxnTimeout m.fsm (fun _ s => s) timer none s).1) event
      ((s.dropTimer timer).increment.mapTxn fun txn => { txn with timerId := none })
      hstarted.values hmatched hstarted.method hstarted.copied
    have hdone := keyInv_of_keySpec hstarted hspec fun hforgotten => absurd hforgotten hforgets
    rw [hchanges, TxnFsm.expire, cbkTxnTimeout_of_slot _ _ hpool hid.symm hlive hevent]
    dsimp only
    split
    · exact hdone.congr ⟨rfl, rfl, rfl⟩ rfl id
    · split
      · exact hdone.removeFromTxnPool.congr ⟨rfl, rfl, rfl⟩ rfl id
      · split
        · exact hdone
        · exact hdone.congr ⟨rfl, rfl, rfl⟩ rfl id
  · have hchanges : callbackKeyChanges m timer s = [] := by
      unfold callbackKeyChanges
      split
      · rename_i hcond
        cases hevent : m.fsm.timeoutEvent timer.timerType with
        | none => rfl
        | some event =>
            exact absurd ⟨hcond.1, hcond.2.1, hcond.2.2, event, hevent⟩ haction
      · rfl
    obtain ⟨refCount, timerId, inTxnPool, hpool, hout⟩ :=
      RefDiscipline.cbkTxnTimeout_of_no_action
        (fun timer s => (cbkTxnTimeout m.fsm (fun _ s => s) timer none s).1) haction
    rw [hchanges, TxnFsm.expire, hout]
    exact hdropped.congr ⟨rfl, rfl, rfl⟩ rfl hpool

theorem keyInv_terminateTxn (h : KeyInv m ⟨s, marked, aborted⟩)
    (hallowed : ∀ key, (key, true) ∈ marked → deletes s.txn.txnKey true key = true) :
    KeyInv m ⟨s.removeFromTxnPool.stopTxnTimer.deleteKeys s.txn.txnKey true,
      applyMarkedChanges true [.delete s.txn.txnKey true] marked, true⟩ := by
  have hremoved := removeFromTxnPool_keyFrame s
  have hstopped := KeyFrame.stopTxnTimer s.removeFromTxnPool
  refine ⟨?_, ?_, fun hidle => ?_, ?_, fun _ => ?_, fun key hmem => ?_⟩
  · change s.removeFromTxnPool.stopTxnTimer.txn.txnTimerValues.InRange
    rw [hstopped.txnTimerValues, hremoved.txnTimerValues]
    exact h.values
  · change s.removeFromTxnPool.stopTxnTimer.txn.txnKey.method = _
    rw [hstopped.txnKey, hremoved.txnKey]
    exact h.method
  · change s.removeFromTxnPool.stopTxnTimer.txn.txnState ≠ m.idle at hidle
    rw [SipStack.stopTxnTimer_txn] at hidle
    change s.removeFromTxnPool.stopTxnTimer.txn.txnKey.copy.isSome = true
    rw [hstopped.txnKey, hremoved.txnKey]
    refine h.copied fun hs => hidle ?_
    exact (RefDiscipline.removeFromTxnPool_txnState s).trans hs
  · have hmarks : marked.map Prod.fst = s.txnKeyList := h.marks
    change (applyMarkedChanges true [.delete s.txn.txnKey true] marked).map Prod.fst =
      deleteTxnKey s.removeFromTxnPool.stopTxnTimer.txnKeyList s.txn.txnKey true
    rw [map_applyMarkedChanges, hmarks, hstopped.txnKeyList, hremoved.txnKeyList]
    rfl
  · change s.removeFromTxnPool.stopTxnTimer.inTxnPool = false
    rw [SipStack.stopTxnTimer_inTxnPool, removeFromTxnPool_inTxnPool]
  · exact absurd hmem (own_applyMarked_delete hallowed key)

theorem keyInv_prackReceived (h : KeyInv m ⟨s, marked, aborted⟩) (newTxnKey : SipTxnKey) :
    KeyInv m ⟨s.prackReceived newTxnKey,
      applyMarkedChanges true (prackKeyChanges newTxnKey s) marked, aborted⟩ := by
  have hdeleted := h.applyChanges true [.delete newTxnKey true] (by simp)
  unfold SipStack.prackReceived prackKeyChanges
  cases searchTxnKey s.txnKeyList newTxnKey with
  | none => exact h
  | some invTxnKey =>
      by_cases hfetched : (s.inTxnPool && s.txn.txnKey.compareKeys invTxnKey) = true
      · simp only [if_pos hfetched]
        refine hdeleted.congr ⟨?_, ?_, ?_⟩ ?_ ?_
        · simp
        · simp
        · simp [SipStack.deleteKeys, Txn.applyChanges, KeyChange.apply]
        · simp
        · simp
      · simp only [if_neg hfetched]
        exact h

theorem keyInv_step {txnType : TxnType} (d : KeyDiscipline m) {r r' : KeyRun σ}
    {e : KeyEvent ε} (h : KeyInv m r) (hallowed : Remembers m r e)
    (hstep : KeyStep m txnType r e r') : KeyInv m r' := by
  cases hstep with
  | invokeFsm s marked aborted event hevent hin hmatched =>
      obtain rfl : aborted = false := h.live hin
      exact keyInv_of_keySpec h (d.spec _ event s h.values hmatched h.method h.copied) hallowed
  | timerExpired s marked aborted timer hmem => exact keyInv_expire d h timer
  | terminateTxn s marked aborted hpool => exact keyInv_terminateTxn h hallowed
  | otherTxns s marked aborted changes => exact h.applyChanges false changes nofun
  | prackReceived s marked aborted newTxnKey htype => exact keyInv_prackReceived h newTxnKey
  | msgSent s marked aborted transpInfo => exact h.congr ⟨rfl, rfl, rfl⟩ rfl id
  | updateSipTimers s marked aborted options values hpos =>
      exact { h with values := TimerDiscipline.updateSipTimers_inRange h.values hpos.inRange options }
  | removeTxn s marked aborted hterm => exact h.removeFromTxnPool

theorem keyInv_of_reachable {txnType : TxnType} (d : KeyDiscipline m) {r : KeyRun σ}
    (hr : ((keySystem m txnType).restrict (Remembers m)).Reachable r) : KeyInv m r :=
  hr.restrict_invariant (fun _ => keyInv_init) fun _ _ _ h hallowed hstep =>
    keyInv_step d h hallowed hstep

theorem KeyInv.noKeyLeft (d : KeyDiscipline m) {r : KeyRun σ} (h : KeyInv m r)
    (hended : Ended m r) : NoKeyLeft r := by
  refine ⟨h.marks, fun key hmem => ?_⟩
  obtain ⟨-, hholds, haborted⟩ := h.own key hmem
  rcases hended with hterm | hend
  · rw [d.holds_live _ hholds] at hterm
    exact Bool.false_ne_true hterm
  · rw [haborted] at hend
    exact Bool.false_ne_true hend

/-- A machine whose keys all carry its To-tag, and none of whose steps leaves keys
behind, never forgets any. -/
theorem KeyInv.remembers (hToTag : m.checkToTag = true)
    (hforgets : ∀ event state, ¬ m.forgets event state) {r : KeyRun σ} (h : KeyInv m r)
    (e : KeyEvent ε) : Remembers m r e := by
  cases e with
  | invokeFsm event => exact fun hforgotten => absurd hforgotten (hforgets event _)
  | terminateTxn =>
      intro key hmem
      have hdeletes := (h.own key hmem).1
      rw [hToTag] at hdeletes
      exact hdeletes
  | _ => trivial

end Invariant

section Machines

theorem clientDiscipline : KeyDiscipline SipInviteClientTxn.keyMachine where
  spec immediate event s hvalues hmatched _ _ :=
    SipInviteClientTxn.keySpec immediate event s hvalues hmatched
  timeout timer event s hevent := by
    change SipInviteClientTxn.fsm.timeoutEvent timer = some event at hevent
    cases timer <;> cases hevent <;> exact ⟨trivial, nofun⟩
  frame _ _ := rfl
  drop _ _ _ := rfl
  idle_holds := rfl
  holds_live state hholds := by
    cases state <;> first | rfl | exact absurd hholds (by decide)

theorem serverDiscipline : KeyDiscipline SipInviteServerTxn.keyMachine where
  spec immediate event s hvalues _ hmethod hcopy :=
    SipInviteServerTxn.keySpec immediate event s hvalues hmethod hcopy
  timeout _ _ _ _ := ⟨trivial, id⟩
  frame _ _ := rfl
  drop _ _ _ := rfl
  idle_holds := rfl
  holds_live state hholds := by
    cases state <;> first | rfl | exact absurd hholds (by decide)

/-- No key of a reliable provisional response outlives its INVITE transaction, in the
runs of a client in which no step forgets keys it holds, and in all runs of a server. -/
theorem noKeyLeft_of_ended (client : KeyRun SipInviteClientTxn.State)
    (server : KeyRun SipInviteServerTxn.State) :
    (((keySystem SipInviteClientTxn.keyMachine .inviteClient).restrict
        (Remembers SipInviteClientTxn.keyMachine)).Reachable client →
      Ended SipInviteClientTxn.keyMachine client → NoKeyLeft client) ∧
    ((keySystem SipInviteServerTxn.keyMachine .inviteServer).Reachable server →
      Ended SipInviteServerTxn.keyMachine server → NoKeyLeft server) := by
  constructor
  · intro hr hended
    exact (keyInv_of_reachable clientDiscipline hr).noKeyLeft clientDiscipline hended
  · intro hr hended
    have hinv : KeyInv SipInviteServerTxn.keyMachine server := by
      refine System.Reachable.invariant (fun _ => keyInv_init) ?_ hr
      intro r e r' h hstep
      exact keyInv_step serverDiscipline h (h.remembers rfl (fun _ _ => id) e) hstep
    exact hinv.noKeyLeft serverDiscipline hended

end Machines

section Example

open SipInviteClientTxn

/-- A response of some status, reliable if it has a number. -/
def response (statusCode : Nat) (rSeq : Option Nat) : SipTxnFsmData :=
  { exampleData methodInvite .inviteClient with
    sipMsgIn := ⟨exampleKey methodInvite .inviteClient, statusCode, rSeq, none⟩ }

/-- One message more in a run. -/
def received (event : Event) (r : KeyRun State) : KeyRun State :=
  ⟨(fsm.invokeFsm event r.stack).stack,
    applyMarkedChanges true (keyChanges event r.stack) r.marked, r.aborted⟩

/-- An INVITE client transaction that has received a reliable 183 response. -/
def ringing : KeyRun State :=
  received (.recv1xxResp (response 183 (some 1)))
    (received (.sendInvReq (response 0 none))
      ⟨exampleStack .idle methodInvite .inviteClient, [], false⟩)

theorem ringing_reachable (allowed : KeyRun State → KeyEvent Event → Prop)
    (hallowed : ∀ r event, event ≠ .transpError → allowed r (.invokeFsm event)) :
    ((keySystem keyMachine .inviteClient).restrict allowed).Reachable ringing := by
  have hnew : ((keySystem keyMachine .inviteClient).restrict allowed).Reachable
      ⟨exampleStack .idle methodInvite .inviteClient, [], false⟩ :=
    .init ⟨_, _, [], _, exampleValues_positive, rfl, rfl, rfl, rfl⟩
  have hcalling : ((keySystem keyMachine .inviteClient).restrict allowed).Reachable
      (received (.sendInvReq (response 0 none))
        ⟨exampleStack .idle methodInvite .inviteClient, [], false⟩) :=
    .step (.invokeFsm (.sendInvReq (response 0 none))) hnew
      ⟨hallowed _ _ nofun, .invokeFsm _ _ _ _ rfl (.inr ⟨rfl, rfl⟩) trivial⟩
  exact .step (.invokeFsm (.recv1xxResp (response 183 (some 1)))) hcalling
    ⟨hallowed _ _ nofun, .invokeFsm _ _ _ _ rfl (.inl (by decide)) ⟨rfl, by decide⟩⟩

/-- The call is refused with 486, and timer D ends the transaction. -/
def refused : KeyRun State :=
  let r := received (.recvFailureResp (response 486 none)) ringing
  ⟨(fsm.expire ⟨1, .timerD⟩ r.stack).1,
    applyMarkedChanges true (callbackKeyChanges keyMachine ⟨1, .timerD⟩ r.stack) r.marked,
    r.aborted⟩

theorem noKeyLeft_refused : NoKeyLeft refused := by
  have hringing := ringing_reachable (Remembers keyMachine) fun r event hevent hforgets =>
    absurd hforgets.1 hevent
  have hcompleted : ((keySystem keyMachine .inviteClient).restrict
      (Remembers keyMachine)).Reachable
      (received (.recvFailureResp (response 486 none)) ringing) :=
    .step (.invokeFsm (.recvFailureResp (response 486 none))) hringing
      ⟨fun h => absurd h.1 nofun, .invokeFsm _ _ _ _ rfl (.inl (by decide)) ⟨rfl, by decide⟩⟩
  refine (noKeyLeft_of_ended refused ⟨exampleStack .idle methodInvite .inviteServer, [],
    false⟩).1 ?_ (.inl (by decide))
  exact .step (.timerExpired ⟨1, .timerD⟩) hcompleted
    ⟨trivial, .timerExpired _ _ _ ⟨1, .timerD⟩ (by decide)⟩

/-- A transport error in the state Proceeding ends the transaction and leaves the key
of the 183 response in the list. -/
theorem not_noKeyLeft :
    (keySystem keyMachine .inviteClient).Reachable (received .transpError ringing) ∧
      Ended keyMachine (received .transpError ringing) ∧
      ¬ NoKeyLeft (received .transpError ringing) := by
  have hringing : (keySystem keyMachine .inviteClient).Reachable ringing :=
    (ringing_reachable (fun _ _ => True) fun _ _ _ => trivial).of_restrict
  refine ⟨.step (.invokeFsm .transpError) hringing ?_, .inl (by decide), fun h => ?_⟩
  · exact .invokeFsm _ _ _ _ rfl (.inl (by decide)) trivial
  · exact h.2 (response 183 (some 1)).sipMsgIn.makeKey (by decide)

end Example

end ImsStack.Txn.RprKeys
