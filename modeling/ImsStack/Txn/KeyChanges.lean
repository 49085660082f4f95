import ImsStack.Txn.RefBalance

/-!
What the steps of the INVITE transactions do to the global list of keys of
reliable provisional responses, as lists of elementary changes, and the same
changes on a list that marks the keys of one transaction.
-/

namespace ImsStack.Txn

/-- One change of the list of keys: `AddTxnKey`, `DeleteTxnKey`, or `SetRSeq` on a
stored key. -/
inductive KeyChange where
  | add (key : SipTxnKey)
  | delete (userKey : SipTxnKey) (checkToTag : Bool)
  | setRSeq (found : SipTxnKey) (rSeq : Nat)
  deriving DecidableEq, Repr

/-- The list of keys, each with a mark: whether the transaction has added it. -/
abbrev MarkedKeys := List (SipTxnKey × Bool)

/-- The stored key matches in `DeleteTxnKey`. -/
def deletes (userKey : SipTxnKey) (checkToTag : Bool) (stored : SipTxnKey) : Bool :=
  stored.compareKeysForRPR { userKey with rules := ⟨checkToTag, false, false⟩ }

namespace KeyChange

def apply : KeyChange → List SipTxnKey → List SipTxnKey
  | add key, keys => addTxnKey keys key
  | delete userKey checkToTag, keys => deleteTxnKey keys userKey checkToTag
  | setRSeq found rSeq, keys => SipInviteClientTxn.setStoredRSeq keys found rSeq

def setMarkedRSeq (found : SipTxnKey) (rSeq : Nat) : MarkedKeys → MarkedKeys
  | [] => []
  | (key, own) :: keys =>
    if key = found then ({ key with rSeqNum := rSeq }, own) :: keys
    else (key, own) :: setMarkedRSeq found rSeq keys

/-- The change on marked keys; a key that is added gets the mark `own`. -/
def applyMarked (own : Bool) : KeyChange → MarkedKeys → MarkedKeys
  | add key, keys => keys ++ [(key, own)]
  | delete userKey checkToTag, keys => keys.filter fun key => !deletes userKey checkToTag key.1
  | setRSeq found rSeq, keys => setMarkedRSeq found rSeq keys

theorem map_setMarkedRSeq (found : SipTxnKey) (rSeq : Nat) (keys : MarkedKeys) :
    (setMarkedRSeq found rSeq keys).map Prod.fst =
      SipInviteClientTxn.setStoredRSeq (keys.map Prod.fst) found rSeq := by
  induction keys with
  | nil => rfl
  | cons key keys ih =>
      obtain ⟨key, own⟩ := key
      simp only [setMarkedRSeq, List.map_cons, SipInviteClientTxn.setStoredRSeq]
      split
      · rfl
      · rw [List.map_cons, ih]

theorem map_applyMarked (own : Bool) (change : KeyChange) (keys : MarkedKeys) :
    (change.applyMarked own keys).map Prod.fst = change.apply (keys.map Prod.fst) := by
  cases change with
  | add key => simp [applyMarked, apply, addTxnKey]
  | delete userKey checkToTag =>
      simp only [applyMarked, apply, deleteTxnKey, List.filter_map]
      rfl
  | setRSeq found rSeq => exact map_setMarkedRSeq found rSeq keys

theorem mem_setMarkedRSeq {found : SipTxnKey} {rSeq : Nat} {keys : MarkedKeys}
    {key : SipTxnKey × Bool} (h : key ∈ setMarkedRSeq found rSeq keys) :
    key ∈ keys ∨ ∃ old, (old, key.2) ∈ keys ∧ key.1 = { old with rSeqNum := rSeq } := by
  induction keys with
  | nil => exact absurd h List.not_mem_nil
  | cons head keys ih =>
      obtain ⟨head, own⟩ := head
      simp only [setMarkedRSeq] at h
      split at h
      · rcases List.mem_cons.mp h with rfl | hmem
        · exact .inr ⟨head, List.mem_cons_self, rfl⟩
        · exact .inl (List.mem_cons_of_mem _ hmem)
      · rcases List.mem_cons.mp h with rfl | hmem
        · exact .inl List.mem_cons_self
        · rcases ih hmem with hkeys | ⟨old, hold, heq⟩
          · exact .inl (List.mem_cons_of_mem _ hkeys)
          · exact .inr ⟨old, List.mem_cons_of_mem _ hold, heq⟩

end KeyChange

/-- Changes one after the other. -/
def applyChanges (changes : List KeyChange) (keys : List SipTxnKey) : List SipTxnKey :=
  changes.foldl (fun keys change => change.apply keys) keys

def applyMarkedChanges (own : Bool) (changes : List KeyChange) (keys : MarkedKeys) : MarkedKeys :=
  changes.foldl (fun keys change => change.applyMarked own keys) keys

theorem map_applyMarkedChanges (own : Bool) (changes : List KeyChange) (keys : MarkedKeys) :
    (applyMarkedChanges own changes keys).map Prod.fst =
      applyChanges changes (keys.map Prod.fst) := by
  induction changes generalizing keys with
  | nil => rfl
  | cons change changes ih =>
      change (applyMarkedChanges own changes (change.applyMarked own keys)).map Prod.fst = _
      rw [ih, KeyChange.map_applyMarked]
      rfl

/-- The key and the timer values of a transaction are the same in two states of the
stack, and the list of keys has become `keys`. -/
structure KeyFrame {σ : Type} (s : SipStack σ) (keys : List SipTxnKey) (s' : SipStack σ) :
    Prop where
  txnKey : s'.txn.txnKey = s.txn.txnKey
  txnTimerValues : s'.txn.txnTimerValues = s.txn.txnTimerValues
  txnKeyList : s'.txnKeyList = keys

namespace KeyFrame

variable {σ : Type} {s s' s'' : SipStack σ} {keys : List SipTxnKey}

theorem refl (s : SipStack σ) : KeyFrame s s.txnKeyList s := ⟨rfl, rfl, rfl⟩

theorem stopTxnTimer (s : SipStack σ) : KeyFrame s s.txnKeyList s.stopTxnTimer :=
  ⟨by simp, by simp, by simp⟩

/-- A timer that is started for one of the timer values runs no callback at once. -/
theorem startTxnTimer (h : KeyFrame s keys s') (hvalues : s.txn.txnTimerValues.InRange)
    (immediate : ImmediateTimeout σ) (timer timer' : TimerType) :
    KeyFrame s keys (s'.startTxnTimer immediate timer (s'.txn.getTimerValue timer')) := by
  have hpos : 0 < s'.txn.getTimerValue timer' := by
    rw [SipTxn.getTimerValue, h.txnTimerValues]
    exact (hvalues timer').1
  rw [SipStack.startTxnTimer_of_pos immediate timer hpos]
  exact ⟨h.txnKey, h.txnTimerValues, h.txnKeyList⟩

theorem andThen (h : KeyFrame s keys s') (hkey : s''.txn.txnKey = s'.txn.txnKey)
    (hvalues : s''.txn.txnTimerValues = s'.txn.txnTimerValues)
    (hkeys : s''.txnKeyList = s'.txnKeyList) : KeyFrame s keys s'' :=
  ⟨hkey.trans h.txnKey, hvalues.trans h.txnTimerValues, hkeys.trans h.txnKeyList⟩

end KeyFrame

theorem KeepsTxn.keyFrame {σ : Type} {s s' : SipStack σ} (h : KeepsTxn s s') :
    KeyFrame s s.txnKeyList s' :=
  ⟨h.txnKey, h.txnTimerValues, h.txnKeyList⟩

/-- A retransmission timer leaves the keys alone, whether it retransmits or gives
up. -/
theorem retransmitOr_keyFrame {σ : Type} (immediate : ImmediateTimeout σ) (timer : TimerType)
    (mayRetransmit : Prop) [Decidable mayRetransmit] (duration : Nat)
    (giveUp : SipTxn σ → SipTxn σ) (s : SipStack σ)
    (hkey : ∀ txn, (giveUp txn).txnKey = txn.txnKey)
    (hvalues : ∀ txn, (giveUp txn).txnTimerValues = txn.txnTimerValues) :
    KeyFrame s s.txnKeyList
      (retransmitOr immediate timer mayRetransmit duration giveUp s).stack := by
  by_cases h : mayRetransmit ∧ s.firstDurationExpired < s.txn.maxDuration
  · exact (retransmitOr_keepsTxn h).keyFrame
  · rw [retransmitOr_of_not h]
    exact (KeepsTxn.countFirstExpiry s).keyFrame.andThen (hkey _) (hvalues _) rfl

/-- One of the two INVITE transactions, as far as its keys of reliable provisional
responses go: the states in which it may hold keys, whether its keys match its own
with the To-tag, the messages it is handed, and the steps that forget its keys. -/
structure KeyMachine (σ ε : Type) where
  fsm : TxnFsm σ ε
  idle : σ
  checkToTag : Bool
  holdsKeys : σ → Bool
  keyChanges : ε → SipStack σ → List KeyChange
  matched : ε → SipStack σ → Prop
  forgets : ε → σ → Prop

/-- How a step treats the keys the transaction holds. -/
inductive KeyOutcome {σ ε : Type} (m : KeyMachine σ ε) (event : ε) (s s' : SipStack σ) : Prop where
  /-- Keys may be held afterwards; those that are added are the transaction's. -/
  | kept : m.holdsKeys s'.txn.txnState = true →
      (∀ key, .add key ∈ m.keyChanges event s → deletes s.txn.txnKey m.checkToTag key = true) →
      KeyOutcome m event s s'
  /-- All keys of the transaction are deleted. -/
  | cleared : m.keyChanges event s = [.delete s.txn.txnKey false] → KeyOutcome m event s s'
  /-- No key was held before. -/
  | none : m.keyChanges event s = [] → m.holdsKeys s.txn.txnState = false →
      KeyOutcome m event s s'
  /-- The keys are left behind. -/
  | forgotten : m.keyChanges event s = [] → m.forgets event s.txn.txnState →
      KeyOutcome m event s s'

/-- What an action does as far as the keys are concerned. -/
structure KeySpec {σ ε : Type} (m : KeyMachine σ ε) (event : ε) (s s' : SipStack σ) : Prop where
  frame : KeyFrame s (applyChanges (m.keyChanges event s) s.txnKeyList) s'
  copied : s'.txn.txnState ≠ m.idle → s.txn.txnState ≠ m.idle ∨ s.txn.txnKey.copy.isSome = true
  outcome : KeyOutcome m event s s'

namespace SipInviteClientTxn

/-- What a message or a transport error does to the keys of the INVITE client
transaction. -/
def keyChanges (event : Event) (s : Stack) : List KeyChange :=
  match s.txn.txnState, event with
  | .calling, .recv1xxResp data =>
    if data.sipMsgIn.statusCode ≠ 100 ∧ data.sipMsgIn.hasRSeq then [.add data.sipMsgIn.makeKey]
    else []
  | .proceeding, .recv1xxResp data =>
    let tempTxnKey := data.sipMsgIn.makeKey
    if data.sipMsgIn.statusCode ≠ 100 ∧ data.sipMsgIn.hasRSeq then
      match searchTxnKey s.txnKeyList tempTxnKey with
      | some _ => []
      | none =>
        match searchTxnKey s.txnKeyList tempTxnKey false with
        | some invTxnKey =>
          if uint32 (invTxnKey.rSeqNum + 1) ≠ tempTxnKey.rSeqNum then []
          else [.setRSeq invTxnKey tempTxnKey.rSeqNum]
        | none => [.add tempTxnKey]
    else []
  | .proceeding, .recv2xxResp data => [.delete data.sipMsgIn.makeKey true]
  | .proceeding, .recvFailureResp _ => [.delete s.txn.txnKey false]
  | .accepted, .recv2xxResp data => [.delete data.sipMsgIn.makeKey true]
  | .accepted, .recvFailureResp data => [.delete data.sipMsgIn.makeKey true]
  | .accepted, .transpError => [.delete s.txn.txnKey false]
  | .accepted, .timerMTimeOut => [.delete s.txn.txnKey false]
  | _, _ => []

/-- The response has fetched this transaction from the pool: `OnRecvTxn` makes its
key one of an INVITE client transaction. -/
def fetchedBy (data : SipTxnFsmData) (s : Stack) : Prop :=
  data.sipMsgIn.txnKey.method = some methodInvite ∧
    s.txn.txnKey.compareKeys { data.sipMsgIn.makeKey with txnType := some .inviteClient } = true

def keyMachine : KeyMachine State Event where
  fsm := fsm
  idle := .idle
  checkToTag := false
  holdsKeys state := state = .proceeding ∨ state = .accepted
  keyChanges := keyChanges
  matched
    | .recv1xxResp data, s | .recv2xxResp data, s | .recvFailureResp data, s => fetchedBy data s
    | _, _ => True
  forgets event state := event = .transpError ∧ state = .proceeding

theorem stricmpEquals_comm (a b : Option SipChars) : stricmpEquals a b = stricmpEquals b a := by
  cases a <;> cases b <;> simp [stricmpEquals, eq_comm]

theorem strcmpEquals_symm {a b : Option SipChars} (h : strcmpEquals a b = true) :
    strcmpEquals b a = true := by
  cases a <;> cases b <;> simp_all [strcmpEquals]

/-- The key of a response that has fetched the transaction is one the transaction
deletes. -/
theorem deletes_of_fetchedBy {data : SipTxnFsmData} {s : Stack} (h : fetchedBy data s) :
    deletes s.txn.txnKey false data.sipMsgIn.makeKey = true := by
  obtain ⟨hmethod, hcompare⟩ := h
  simp only [SipTxnKey.compareKeys, SipMessage.makeKey, Bool.and_eq_true] at hcompare
  obtain ⟨⟨⟨⟨-, hcallId⟩, hfromTag⟩, -⟩, -⟩ := hcompare
  rw [stricmpEquals_comm] at hfromTag
  have hinvite : strcmpEquals (some methodInvite) (some methodInvite) = true := by decide
  simp [deletes, SipTxnKey.compareKeysForRPR, SipMessage.makeKey, hmethod, hinvite,
    strcmpEquals_symm hcallId, hfromTag]

variable {immediate : ImmediateTimeout State} {s : Stack}

theorem keySpec_of_none {event : Event} {s' : Stack} (hchanges : keyChanges event s = [])
    (hholds : keyMachine.holdsKeys s.txn.txnState = false) (hidle : s.txn.txnState ≠ .idle)
    (hframe : KeyFrame s s.txnKeyList s') : KeySpec keyMachine event s s' := by
  refine ⟨?_, fun _ => .inl hidle, .none hchanges hholds⟩
  change KeyFrame s (applyChanges (keyChanges event s) s.txnKeyList) s'
  rw [hchanges]
  exact hframe

theorem keySpec_calling (hvalues : s.txn.txnTimerValues.InRange) (event : Event)
    (hmatched : keyMachine.matched event s) (hstate : s.txn.txnState = .calling) :
    KeySpec keyMachine event s (runAction immediate (table .calling event) s).stack := by
  have hidle : s.txn.txnState ≠ .idle := by simp [hstate]
  have hholds : keyMachine.holdsKeys s.txn.txnState = false := by simp [hstate, keyMachine]
  have hstopped := KeyFrame.stopTxnTimer s
  cases event with
  | recv1xxResp data =>
      have hchanges : keyChanges (.recv1xxResp data) s =
          if data.sipMsgIn.statusCode ≠ 100 ∧ data.sipMsgIn.hasRSeq then
            [.add data.sipMsgIn.makeKey] else [] := by
        unfold keyChanges
        rw [hstate]
      refine ⟨?_, fun _ => .inl hidle, .kept rfl fun key hadd => ?_⟩
      · change KeyFrame s (applyChanges (keyChanges (.recv1xxResp data) s) s.txnKeyList) _
        rw [hchanges]
        simp only [table, runAction, callingStateReceive1xxResponse]
        split
        · refine ⟨hstopped.txnKey, hstopped.txnTimerValues, ?_⟩
          simp [SipStack.addKey, applyChanges, KeyChange.apply]
        · exact hstopped.andThen rfl rfl rfl
      · change .add key ∈ keyChanges (.recv1xxResp data) s at hadd
        rw [hchanges] at hadd
        split at hadd
        · obtain rfl : key = data.sipMsgIn.makeKey := by simpa using hadd
          exact deletes_of_fetchedBy hmatched
        · exact absurd hadd List.not_mem_nil
  | timerABTimeOut =>
      refine keySpec_of_none (by unfold keyChanges; rw [hstate]) hholds hidle ?_
      change KeyFrame s s.txnKeyList (callingStateTimerABTimeout immediate s).stack
      rw [callingStateTimerABTimeout_eq]
      exact retransmitOr_keyFrame _ _ _ _ _ _ (fun _ => rfl) fun _ => rfl
  | recv2xxResp data =>
      refine keySpec_of_none (by unfold keyChanges; rw [hstate]) hholds hidle ?_
      exact (hstopped.startTxnTimer hvalues immediate .timerM .timerM).andThen rfl rfl rfl
  | recvFailureResp data =>
      refine keySpec_of_none (by unfold keyChanges; rw [hstate]) hholds hidle ?_
      exact (hstopped.startTxnTimer hvalues immediate .timerD .timerD).andThen rfl rfl rfl
  | transpError =>
      refine keySpec_of_none (by unfold keyChanges; rw [hstate]) hholds hidle ?_
      exact hstopped.andThen rfl rfl rfl
  | _ => exact keySpec_of_none (by unfold keyChanges; rw [hstate]) hholds hidle (.refl s)

/-- A provisional response in the state Proceeding: nothing changes, or the stored
key of its To-tag moves on, or its key is new. -/
theorem proceedingStateReceive1xxResponse_cases (data : SipTxnFsmData)
    (hstate : s.txn.txnState = .proceeding) :
    (keyChanges (.recv1xxResp data) s = [] ∧
        (proceedingStateReceive1xxResponse data s).stack = s) ∨
      (∃ found rSeq, keyChanges (.recv1xxResp data) s = [.setRSeq found rSeq] ∧
        (proceedingStateReceive1xxResponse data s).stack =
          { s with txnKeyList := setStoredRSeq s.txnKeyList found rSeq }) ∨
      keyChanges (.recv1xxResp data) s = [.add data.sipMsgIn.makeKey] ∧
        (proceedingStateReceive1xxResponse data s).stack = s.addKey data.sipMsgIn.makeKey := by
  simp only [keyChanges, hstate, proceedingStateReceive1xxResponse]
  by_cases hrpr : data.sipMsgIn.statusCode ≠ 100 ∧ data.sipMsgIn.hasRSeq = true
  · simp only [if_pos hrpr]
    cases searchTxnKey s.txnKeyList data.sipMsgIn.makeKey with
    | some stored => exact .inl ⟨rfl, rfl⟩
    | none =>
        cases searchTxnKey s.txnKeyList data.sipMsgIn.makeKey false with
        | none => exact .inr (.inr ⟨rfl, rfl⟩)
        | some invTxnKey =>
            by_cases hnext : uint32 (invTxnKey.rSeqNum + 1) ≠ data.sipMsgIn.makeKey.rSeqNum
            · exact .inl ⟨if_pos hnext, by simp only [if_pos hnext]⟩
            · exact .inr (.inl ⟨_, _, if_neg hnext, by simp only [if_neg hnext]⟩)
  · exact .inl ⟨if_neg hrpr, by simp only [if_neg hrpr]⟩

theorem keySpec_of_unchanged {event : Event} (hchanges : keyChanges event s = [])
    (hholds : keyMachine.holdsKeys s.txn.txnState = true) (hidle : s.txn.txnState ≠ .idle) :
    KeySpec keyMachine event s s := by
  refine ⟨?_, fun _ => .inl hidle, .kept hholds fun key hadd => ?_⟩
  · change KeyFrame s (applyChanges (keyChanges event s) s.txnKeyList) s
    rw [hchanges]
    exact .refl s
  · change .add key ∈ keyChanges event s at hadd
    rw [hchanges] at hadd
    exact absurd hadd List.not_mem_nil

theorem keySpec_proceeding (hvalues : s.txn.txnTimerValues.InRange) (event : Event)
    (hmatched : keyMachine.matched event s) (hstate : s.txn.txnState = .proceeding) :
    KeySpec keyMachine event s (runAction immediate (table .proceeding event) s).stack := by
  have hidle : s.txn.txnState ≠ .idle := by simp [hstate]
  have hholds : keyMachine.holdsKeys s.txn.txnState = true := by simp [hstate, keyMachine]
  cases event with
  | recv1xxResp data =>
      change KeySpec keyMachine _ s (proceedingStateReceive1xxResponse data s).stack
      rcases proceedingStateReceive1xxResponse_cases data hstate with
        ⟨hchanges, hstack⟩ | ⟨found, rSeq, hchanges, hstack⟩ | ⟨hchanges, hstack⟩
      · rw [hstack]
        exact keySpec_of_unchanged hchanges hholds hidle
      · refine ⟨?_, fun _ => .inl hidle, .kept ?_ fun key hadd => ?_⟩
        · change KeyFrame s (applyChanges (keyChanges (.recv1xxResp data) s) s.txnKeyList) _
          rw [hchanges, hstack]
          exact ⟨rfl, rfl, rfl⟩
        · rw [hstack]
          exact hholds
        · change .add key ∈ keyChanges (.recv1xxResp data) s at hadd
          simp [hchanges] at hadd
      · refine ⟨?_, fun _ => .inl hidle, .kept ?_ fun key hadd => ?_⟩
        · change KeyFrame s (applyChanges (keyChanges (.recv1xxResp data) s) s.txnKeyList) _
          rw [hchanges, hstack]
          exact ⟨rfl, rfl, rfl⟩
        · rw [hstack]
          exact hholds
        · change .add key ∈ keyChanges (.recv1xxResp data) s at hadd
          obtain rfl : key = data.sipMsgIn.makeKey := by simpa [hchanges] using hadd
          exact deletes_of_fetchedBy hmatched
  | recv2xxResp data =>
      have hchanges : keyChanges (.recv2xxResp data) s = [.delete data.sipMsgIn.makeKey true] := by
        unfold keyChanges
        rw [hstate]
      refine ⟨?_, fun _ => .inl hidle, .kept rfl fun key hadd => ?_⟩
      · have hdeleted : KeyFrame s (deleteTxnKey s.txnKeyList data.sipMsgIn.makeKey true)
            (s.deleteKeys data.sipMsgIn.makeKey true) := ⟨rfl, rfl, rfl⟩
        change KeyFrame s (applyChanges (keyChanges (.recv2xxResp data) s) s.txnKeyList) _
        rw [hchanges]
        exact (hdeleted.startTxnTimer hvalues immediate .timerM .timerM).andThen rfl rfl rfl
      · change .add key ∈ keyChanges (.recv2xxResp data) s at hadd
        simp [hchanges] at hadd
  | recvFailureResp data =>
      have hchanges : keyChanges (.recvFailureResp data) s = [.delete s.txn.txnKey false] := by
        unfold keyChanges
        rw [hstate]
      refine ⟨?_, fun _ => .inl hidle, .cleared hchanges⟩
      have hdeleted : KeyFrame s (deleteTxnKey s.txnKeyList s.txn.txnKey)
          (s.deleteKeys s.txn.txnKey) := ⟨rfl, rfl, rfl⟩
      change KeyFrame s (applyChanges (keyChanges (.recvFailureResp data) s) s.txnKeyList) _
      rw [hchanges]
      exact (hdeleted.startTxnTimer hvalues immediate .timerD .timerD).andThen rfl rfl rfl
  | transpError =>
      have hchanges : keyChanges .transpError s = [] := by
        unfold keyChanges
        rw [hstate]
      refine ⟨?_, fun _ => .inl hidle, .forgotten hchanges ⟨rfl, hstate⟩⟩
      change KeyFrame s (applyChanges (keyChanges .transpError s) s.txnKeyList) _
      rw [hchanges]
      exact ⟨rfl, rfl, rfl⟩
  | _ => exact keySpec_of_unchanged (by unfold keyChanges; rw [hstate]) hholds hidle

/-- In the state Accepted keys of other To-tags may be left; the steps that leave it
delete them. -/
theorem keySpec_accepted (event : Event) (hstate : s.txn.txnState = .accepted) :
    KeySpec keyMachine event s (runAction immediate (table .accepted event) s).stack := by
  have hidle : s.txn.txnState ≠ .idle := by simp [hstate]
  have hholds : keyMachine.holdsKeys s.txn.txnState = true := by simp [hstate, keyMachine]
  have hkept (event : Event) (changes : List KeyChange) (hchanges : keyChanges event s = changes)
      (hadd : ∀ key, .add key ∉ changes) :
      KeySpec keyMachine event s
        { s with txnKeyList := applyChanges (keyChanges event s) s.txnKeyList } := by
    refine ⟨⟨rfl, rfl, rfl⟩, fun _ => .inl hidle, .kept hholds fun key hmem => ?_⟩
    change .add key ∈ keyChanges event s at hmem
    rw [hchanges] at hmem
    exact absurd hmem (hadd key)
  cases event with
  | recv2xxResp data =>
      have hchanges : keyChanges (.recv2xxResp data) s = [.delete data.sipMsgIn.makeKey true] := by
        unfold keyChanges
        rw [hstate]
      have hspec := hkept _ _ hchanges (by simp)
      rw [hchanges] at hspec
      exact hspec
  | recvFailureResp data =>
      have hchanges : keyChanges (.recvFailureResp data) s =
          [.delete data.sipMsgIn.makeKey true] := by
        unfold keyChanges
        rw [hstate]
      have hspec := hkept _ _ hchanges (by simp)
      rw [hchanges] at hspec
      exact hspec
  | transpError =>
      have hchanges : keyChanges .transpError s = [.delete s.txn.txnKey false] := by
        unfold keyChanges
        rw [hstate]
      refine ⟨?_, fun _ => .inl hidle, .cleared hchanges⟩
      change KeyFrame s (applyChanges (keyChanges .transpError s) s.txnKeyList) _
      rw [hchanges]
      refine ⟨(KeyFrame.stopTxnTimer s).txnKey, (KeyFrame.stopTxnTimer s).txnTimerValues, ?_⟩
      simp [table, runAction, acceptedStateTransportError, SipStack.deleteKeys, applyChanges,
        KeyChange.apply]
  | timerMTimeOut =>
      have hchanges : keyChanges .timerMTimeOut s = [.delete s.txn.txnKey false] := by
        unfold keyChanges
        rw [hstate]
      refine ⟨?_, fun _ => .inl hidle, .cleared hchanges⟩
      change KeyFrame s (applyChanges (keyChanges .timerMTimeOut s) s.txnKeyList) _
      rw [hchanges]
      exact ⟨rfl, rfl, rfl⟩
  | _ => exact keySpec_of_unchanged (by unfold keyChanges; rw [hstate]) hholds hidle

theorem keySpec (immediate : ImmediateTimeout State) (event : Event) (s : Stack)
    (hvalues : s.txn.txnTimerValues.InRange) (hmatched : keyMachine.matched event s) :
    KeySpec keyMachine event s (fsm.invoke immediate event s).stack := by
  change KeySpec keyMachine event s (runAction immediate (table s.txn.txnState event) s).stack
  have hstopped := KeyFrame.stopTxnTimer s
  cases hstate : s.txn.txnState with
  | calling => exact keySpec_calling hvalues event hmatched hstate
  | proceeding => exact keySpec_proceeding hvalues event hmatched hstate
  | accepted => exact keySpec_accepted event hstate
  | idle =>
      have hholds : keyMachine.holdsKeys s.txn.txnState = false := by simp [hstate, keyMachine]
      have hchanges : keyMachine.keyChanges event s = [] := by
        simp [keyMachine, keyChanges, hstate]
      cases event with
      | sendInvReq data =>
          simp only [table, runAction, idleStateSendInviteRequest]
          cases hcopy : s.txn.txnKey.copy with
          | none =>
              refine ⟨?_, fun h => absurd hstate h, .none hchanges hholds⟩
              rw [hchanges]
              exact .refl s
          | some newTxnKey =>
              have hadded : KeyFrame s s.txnKeyList s.addToTxnPool := ⟨rfl, rfl, rfl⟩
              refine ⟨?_, fun _ => .inr (by rw [hcopy]; rfl), .none hchanges hholds⟩
              rw [hchanges]
              simp only
              split
              · exact .refl s
              · split
                · exact (hadded.startTxnTimer hvalues immediate .timerA .timerT1).andThen rfl rfl rfl
                · exact (hadded.startTxnTimer hvalues immediate .timerB .timerB).andThen rfl rfl rfl
      | _ =>
          refine ⟨?_, fun h => absurd hstate h, .none hchanges hholds⟩
          rw [hchanges]
          exact .refl s
  | completed =>
      have hholds : keyMachine.holdsKeys s.txn.txnState = false := by simp [hstate, keyMachine]
      have hidle : s.txn.txnState ≠ .idle := by simp [hstate]
      have hchanges : keyChanges event s = [] := by unfold keyChanges; rw [hstate]
      refine keySpec_of_none hchanges hholds hidle ?_
      cases event with
      | transpError => exact hstopped.andThen rfl rfl rfl
      | timerDTimeOut => exact ⟨rfl, rfl, rfl⟩
      | _ => exact .refl s
  | terminated =>
      have hholds : keyMachine.holdsKeys s.txn.txnState = false := by simp [hstate, keyMachine]
      have hidle : s.txn.txnState ≠ .idle := by simp [hstate]
      have hchanges : keyChanges event s = [] := by unfold keyChanges; rw [hstate]
      refine keySpec_of_none hchanges hholds hidle ?_
      cases event <;> exact .refl s

end SipInviteClientTxn

namespace SipInviteServerTxn

/-- What a message, a transport error or an expired timer does to the keys of the
INVITE server transaction. -/
def keyChanges (event : Event) (s : Stack) : List KeyChange :=
  match s.txn.txnState, event with
  | .proceeding, .sendNon100ProvResp data =>
    let nStatusCode := data.sipMsgIn.statusCode
    if (100 < nStatusCode ∧ nStatusCode < 200) ∧ data.sipMsgIn.hasRSeq then
      [.delete s.txn.txnKey false,
        .add { s.txn.txnKey with rSeqNum := data.sipMsgIn.rSeq.getD 0 }]
    else [.delete s.txn.txnKey false]
  | .proceeding, .sendFailureResp _ => [.delete s.txn.txnKey false]
  | .proceeding, .send2xxResp _ => [.delete s.txn.txnKey false]
  | _, _ => []

def keyMachine : KeyMachine State Event where
  fsm := fsm
  idle := .idle
  checkToTag := true
  holdsKeys state := state = .proceeding
  keyChanges := keyChanges
  matched _ _ := True
  forgets _ _ := False

variable {immediate : ImmediateTimeout State} {s : Stack}

/-- The key of a reliable provisional response is the transaction's own, with the
number of the response. -/
theorem deletes_own (hmethod : s.txn.txnKey.method = some methodInvite)
    (hcopy : s.txn.txnKey.copy.isSome = true) (rSeq : Nat) :
    deletes s.txn.txnKey true { s.txn.txnKey with rSeqNum := rSeq } = true := by
  simp only [SipTxnKey.copy] at hcopy
  split at hcopy
  · rename_i hsome
    simp only [Bool.and_eq_true, Option.isSome_iff_exists] at hsome
    obtain ⟨⟨-, fromTag, hfromTag⟩, callId, hcallId⟩ := hsome
    cases htoTag : s.txn.txnKey.toTag <;>
      simp [deletes, SipTxnKey.compareKeysForRPR, hmethod, hfromTag, hcallId, htoTag, strcmpEquals,
        stricmpEquals]
  · exact absurd hcopy (by rintro ⟨⟩)

theorem keySpec_of_none {event : Event} {s' : Stack} (hchanges : keyChanges event s = [])
    (hholds : keyMachine.holdsKeys s.txn.txnState = false) (hidle : s.txn.txnState ≠ .idle)
    (hframe : KeyFrame s s.txnKeyList s') : KeySpec keyMachine event s s' := by
  refine ⟨?_, fun _ => .inl hidle, .none hchanges hholds⟩
  change KeyFrame s (applyChanges (keyChanges event s) s.txnKeyList) s'
  rw [hchanges]
  exact hframe

/-- Before a response is sent in the state Proceeding the keys of earlier ones are
deleted. -/
theorem stopRetransmission_keyFrame (s : Stack) :
    KeyFrame s (deleteTxnKey s.txnKeyList s.txn.txnKey) (stopRetransmission s) := by
  have hstopped := KeyFrame.stopTxnTimer s
  refine ⟨hstopped.txnKey, hstopped.txnTimerValues, ?_⟩
  simp [stopRetransmission, SipStack.deleteKeys]

theorem keySpec_of_unchanged {event : Event} {s' : Stack} (hchanges : keyChanges event s = [])
    (hstate : s.txn.txnState = .proceeding) (hstate' : s'.txn.txnState = .proceeding)
    (hframe : KeyFrame s s.txnKeyList s') : KeySpec keyMachine event s s' := by
  refine ⟨?_, fun _ => .inl (by simp [hstate, keyMachine]), .kept (by simp [hstate', keyMachine])
    fun key hadd => ?_⟩
  · change KeyFrame s (applyChanges (keyChanges event s) s.txnKeyList) s'
    rw [hchanges]
    exact hframe
  · change .add key ∈ keyChanges event s at hadd
    rw [hchanges] at hadd
    exact absurd hadd List.not_mem_nil

theorem keySpec_proceeding_timeout (timer : TimerType) (hstate : s.txn.txnState = .proceeding) :
    KeySpec keyMachine (.timerGHTimeOut timer) s
      (proceedingStateTimerGHTimeout immediate timer s).stack := by
  have hchanges : keyChanges (.timerGHTimeOut timer) s = [] := by
    unfold keyChanges
    rw [hstate]
  have hcount := KeepsTxn.countFirstExpiry s
  by_cases hG : timer = .timerG
  · subst hG
    rw [proceedingStateTimerGHTimeout_eq]
    by_cases h : True ∧ s.firstDurationExpired < s.txn.maxDuration
    · have hkeeps : KeepsTxn s (retransmitOr immediate .timerG True
          (uint32 (s.txn.currentDuration * 2)) (·.setRprTxnTerminated true) s).stack :=
        retransmitOr_keepsTxn h
      exact keySpec_of_unchanged hchanges hstate (hkeeps.txnState.trans hstate) hkeeps.keyFrame
    · rw [retransmitOr_of_not h]
      exact keySpec_of_unchanged hchanges hstate (hcount.txnState.trans hstate)
        (hcount.keyFrame.andThen rfl rfl rfl)
  · rw [proceedingStateTimerGHTimeout_of_ne immediate s hG]
    exact keySpec_of_unchanged hchanges hstate (hcount.txnState.trans hstate) hcount.keyFrame

theorem keySpec_proceeding (hvalues : s.txn.txnTimerValues.InRange)
    (hmethod : s.txn.txnKey.method = some methodInvite)
    (hcopy : s.txn.txnKey.copy.isSome = true) (event : Event)
    (hstate : s.txn.txnState = .proceeding) :
    KeySpec keyMachine event s (runAction immediate (table .proceeding event) s).stack := by
  have hidle : s.txn.txnState ≠ .idle := by simp [hstate]
  have hstopped := stopRetransmission_keyFrame s
  have hkey : (stopRetransmission s).txn.txnKey = s.txn.txnKey := hstopped.txnKey
  have hproceeding : (stopRetransmission s).txn.txnState = .proceeding := by
    rw [stopRetransmission_txnState, hstate]
  cases event with
  | sendNon100ProvResp data =>
      by_cases hrpr : (100 < data.sipMsgIn.statusCode ∧ data.sipMsgIn.statusCode < 200) ∧
          data.sipMsgIn.hasRSeq = true
      · have hchanges : keyChanges (.sendNon100ProvResp data) s = [.delete s.txn.txnKey false,
            .add { s.txn.txnKey with rSeqNum := data.sipMsgIn.rSeq.getD 0 }] := by
          simp only [keyChanges, hstate, if_pos hrpr]
        have hadded : KeyFrame s (applyChanges (keyChanges (.sendNon100ProvResp data) s)
            s.txnKeyList) ((stopRetransmission s).addKey
              { (stopRetransmission s).txn.txnKey with
                rSeqNum := data.sipMsgIn.rSeq.getD 0 }) := by
          refine ⟨hstopped.txnKey, hstopped.txnTimerValues, ?_⟩
          rw [hchanges, hkey]
          simp only [SipStack.addKey, hstopped.txnKeyList]
          rfl
        have hpos : 0 < ((stopRetransmission s).addKey
            { (stopRetransmission s).txn.txnKey with
              rSeqNum := data.sipMsgIn.rSeq.getD 0 }).txn.getTimerValue .timerT1 := by
          rw [SipTxn.getTimerValue, hadded.txnTimerValues]
          exact (hvalues .timerT1).1
        have hstarted := hadded.startTxnTimer hvalues immediate .timerG .timerT1
        simp only [table, runAction, proceedingStateSendNon100ProvisionalResponse, if_pos hrpr]
        refine ⟨hstarted.andThen rfl rfl rfl, fun _ => .inl hidle, .kept ?_ fun key hmem => ?_⟩
        · rw [SipStack.startTxnTimer_of_pos immediate .timerG hpos]
          change decide ((stopRetransmission s).txn.txnState = .proceeding) = true
          rw [hproceeding]
          rfl
        · change .add key ∈ keyChanges (.sendNon100ProvResp data) s at hmem
          obtain rfl : key = { s.txn.txnKey with rSeqNum := data.sipMsgIn.rSeq.getD 0 } := by
            simpa [hchanges] using hmem
          exact deletes_own hmethod hcopy _
      · have hchanges : keyChanges (.sendNon100ProvResp data) s = [.delete s.txn.txnKey false] := by
          simp only [keyChanges, hstate, if_neg hrpr]
        simp only [table, runAction, proceedingStateSendNon100ProvisionalResponse, if_neg hrpr]
        refine ⟨?_, fun _ => .inl hidle, .cleared hchanges⟩
        change KeyFrame s (applyChanges (keyChanges (.sendNon100ProvResp data) s) s.txnKeyList) _
        rw [hchanges]
        exact hstopped
  | sendFailureResp data =>
      have hchanges : keyChanges (.sendFailureResp data) s = [.delete s.txn.txnKey false] := by
        unfold keyChanges
        rw [hstate]
      refine ⟨?_, fun _ => .inl hidle, .cleared hchanges⟩
      change KeyFrame s (applyChanges (keyChanges (.sendFailureResp data) s) s.txnKeyList) _
      rw [hchanges]
      simp only [table, runAction, proceedingStateSendFailureResponse]
      split
      · exact (hstopped.startTxnTimer hvalues immediate .timerG .timerT1).andThen rfl rfl rfl
      · exact (hstopped.startTxnTimer hvalues immediate .timerH .timerH).andThen rfl rfl rfl
  | send2xxResp data =>
      have hchanges : keyChanges (.send2xxResp data) s = [.delete s.txn.txnKey false] := by
        unfold keyChanges
        rw [hstate]
      refine ⟨?_, fun _ => .inl hidle, .cleared hchanges⟩
      change KeyFrame s (applyChanges (keyChanges (.send2xxResp data) s) s.txnKeyList) _
      rw [hchanges]
      exact (hstopped.startTxnTimer hvalues immediate .timerL .timerL).andThen rfl rfl rfl
  | timerGHTimeOut timer => exact keySpec_proceeding_timeout timer hstate
  | _ => exact keySpec_of_unchanged (by unfold keyChanges; rw [hstate]) hstate hstate (.refl s)

theorem keySpec (immediate : ImmediateTimeout State) (event : Event) (s : Stack)
    (hvalues : s.txn.txnTimerValues.InRange) (hmethod : s.txn.txnKey.method = some methodInvite)
    (hcopy : s.txn.txnState ≠ .idle → s.txn.txnKey.copy.isSome = true) :
    KeySpec keyMachine event s (fsm.invoke immediate event s).stack := by
  change KeySpec keyMachine event s (runAction immediate (table s.txn.txnState event) s).stack
  cases hstate : s.txn.txnState with
  | proceeding => exact keySpec_proceeding hvalues hmethod (hcopy (by simp [hstate])) event hstate
  | idle =>
      have hholds : keyMachine.holdsKeys s.txn.txnState = false := by simp [hstate, keyMachine]
      have hchanges : keyMachine.keyChanges event s = [] := by
        simp [keyMachine, keyChanges, hstate]
      cases event with
      | recvInvReq data =>
          simp only [table, runAction, idleStateReceiveInviteRequest]
          cases hcopy : s.txn.txnKey.copy with
          | none =>
              refine ⟨?_, fun h => absurd hstate h, .none hchanges hholds⟩
              rw [hchanges]
              exact .refl s
          | some newTxnKey =>
              refine ⟨?_, fun _ => .inr (by rw [hcopy]; rfl), .none hchanges hholds⟩
              rw [hchanges]
              simp only
              split
              · exact .refl s
              · exact ⟨rfl, rfl, rfl⟩
      | _ =>
          refine ⟨?_, fun h => absurd hstate h, .none hchanges hholds⟩
          rw [hchanges]
          exact .refl s
  | completed =>
      have hholds : keyMachine.holdsKeys s.txn.txnState = false := by simp [hstate, keyMachine]
      have hchanges : keyChanges event s = [] := by unfold keyChanges; rw [hstate]
      refine keySpec_of_none hchanges hholds (by simp [hstate]) ?_
      cases event with
      | recvAckReq data =>
          have hstopped := KeyFrame.stopTxnTimer s
          simp only [table, runAction, completedStateReceiveAckRequest]
          split
          · exact (hstopped.startTxnTimer hvalues immediate .timerI .timerI).andThen rfl rfl rfl
          · exact hstopped.andThen rfl rfl rfl
      | timerGHTimeOut timer =>
          change KeyFrame s s.txnKeyList (completedStateTimerGHTimeout immediate s).stack
          rw [completedStateTimerGHTimeout_eq]
          exact retransmitOr_keyFrame _ _ _ _ _ _ (fun _ => rfl) fun _ => rfl
      | _ => exact .refl s
  | accepted =>
      have hholds : keyMachine.holdsKeys s.txn.txnState = false := by simp [hstate, keyMachine]
      have hchanges : keyChanges event s = [] := by unfold keyChanges; rw [hstate]
      refine keySpec_of_none hchanges hholds (by simp [hstate]) ?_
      cases event with
      | recvAckReq data =>
          simp only [table, runAction, acceptedStateReceiveAckRequest]
          split
          · exact .refl s
          · exact ⟨rfl, rfl, rfl⟩
      | timerLTimeOut => exact ⟨rfl, rfl, rfl⟩
      | _ => exact .refl s
  | confirmed =>
      have hholds : keyMachine.holdsKeys s.txn.txnState = false := by simp [hstate, keyMachine]
      have hchanges : keyChanges event s = [] := by unfold keyChanges; rw [hstate]
      refine keySpec_of_none hchanges hholds (by simp [hstate]) ?_
      cases event with
      | timerITimeOut => exact ⟨rfl, rfl, rfl⟩
      | _ => exact .refl s
  | terminated =>
      have hholds : keyMachine.holdsKeys s.txn.txnState = false := by simp [hstate, keyMachine]
      have hchanges : keyChanges event s = [] := by unfold keyChanges; rw [hstate]
      refine keySpec_of_none hchanges hholds (by simp [hstate]) ?_
      cases event <;> exact .refl s

end SipInviteServerTxn

end ImsStack.Txn
