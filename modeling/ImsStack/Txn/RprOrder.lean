import ImsStack.Library.InOrder
import ImsStack.Txn.KeyChanges

/-!
The order in which an INVITE client transaction delivers reliable provisional
responses: for each To-tag the stored key remembers the RSeq delivered last.
-/

namespace ImsStack.Txn.RprOrder

open InOrder SipInviteClientTxn

/-- The statuses that a sequence of provisional responses is given. -/
def statuses : List SipTxnFsmData → Stack → List TxnStatus
  | [], _ => []
  | data :: responses, s =>
    let result := fsm.invokeFsm (.recv1xxResp data) s
    result.out.txnStatus :: statuses responses result.stack

/-- A reliable provisional response with some To-tag. -/
def carries (tag : SipChars) (data : SipTxnFsmData) : Bool :=
  decide (data.sipMsgIn.statusCode ≠ 100) && data.sipMsgIn.hasRSeq &&
    stricmpEquals data.sipMsgIn.txnKey.toTag (some tag)

/-- The RSeq values of the reliable responses with some To-tag. -/
def rSeqsOf (tag : SipChars) (responses : List SipTxnFsmData) : List Nat :=
  (responses.filter (carries tag)).map fun data => data.sipMsgIn.rSeq.getD 0

/-- The statuses of the reliable responses with some To-tag. -/
def statusesOf (tag : SipChars) (responses : List SipTxnFsmData) (given : List TxnStatus) :
    List TxnStatus :=
  ((responses.zip given).filter fun response => carries tag response.1).map Prod.snd

/-- The verdicts as the transaction reports them. -/
def toStatus : Verdict → TxnStatus
  | .delivered => .validMessage
  | .repeated => .retransmission
  | .refused => .strayResp

/-- A provisional response of the transaction: it has a To-tag, and an RSeq is a
positive number of 32 bits. -/
structure IsResponse (s : Stack) (data : SipTxnFsmData) : Prop where
  fetched : fetchedBy data s
  toTag : data.sipMsgIn.txnKey.toTag.isSome = true
  rSeq : ∀ n, data.sipMsgIn.rSeq = some n → 0 < n ∧ n < 2 ^ 32

/-- The stored key is one of the transaction's dialog and of some To-tag, or of none. -/
def matchesTag (own : SipTxnKey) (tag : SipChars) (stored : SipTxnKey) : Bool :=
  stored.compareKeysForRPR { own with toTag := some tag, rules := ⟨true, false, false⟩ }

section Keys

variable {own key stored : SipTxnKey} {tag : SipChars} {keys : List SipTxnKey}

theorem stricmpEquals_trans {a b c : Option SipChars} (h : stricmpEquals a b = true) :
    stricmpEquals c b = stricmpEquals c a := by
  cases a <;> cases b <;> cases c <;> simp_all [stricmpEquals]

theorem strcmpEquals_eq {a b : Option SipChars} (h : strcmpEquals a b = true) : a = b := by
  cases a <;> cases b <;> simp_all [strcmpEquals]

theorem matchesTag_setRSeq (own key : SipTxnKey) (tag : SipChars) (rSeq : Nat) :
    matchesTag own tag { key with rSeqNum := rSeq } = matchesTag own tag key := by
  simp [matchesTag, SipTxnKey.compareKeysForRPR]

theorem matchesTag_congr {tag' : SipChars}
    (h : stricmpEquals (some tag') (some tag) = true) :
    matchesTag own tag' stored = matchesTag own tag stored := by
  have htag : stricmpEquals stored.toTag (some tag') = stricmpEquals stored.toTag (some tag) :=
    (stricmpEquals_trans h).symm
  simp [matchesTag, SipTxnKey.compareKeysForRPR, htag]

theorem compareKeysForRPR_makeKey {s : Stack} {data : SipTxnFsmData}
    (h : IsResponse s data) {tag' : SipChars}
    (htag : data.sipMsgIn.txnKey.toTag = some tag') (stored : SipTxnKey) (checkRSeq : Bool) :
    stored.compareKeysForRPR
        { data.sipMsgIn.makeKey with rules := ⟨true, false, checkRSeq⟩ } =
      (matchesTag s.txn.txnKey tag' stored &&
        (!(checkRSeq && stored.rSeqNum != 0 && data.sipMsgIn.rSeq.getD 0 != 0) ||
          stored.rSeqNum == data.sipMsgIn.rSeq.getD 0)) := by
  obtain ⟨-, hcompare⟩ := h.fetched
  simp only [SipTxnKey.compareKeys, SipMessage.makeKey, Bool.and_eq_true] at hcompare
  obtain ⟨⟨⟨⟨-, hcallId⟩, hfromTag⟩, -⟩, -⟩ := hcompare
  have hcallId' := strcmpEquals_eq hcallId
  have hfromTag' : stricmpEquals stored.fromTag data.sipMsgIn.txnKey.fromTag =
      stricmpEquals stored.fromTag s.txn.txnKey.fromTag := stricmpEquals_trans hfromTag
  simp [matchesTag, SipTxnKey.compareKeysForRPR, SipMessage.makeKey, htag, ← hcallId', hfromTag']

/-- What is stored for a To-tag: nothing, or one key with the RSeq delivered last. -/
def Stored (own : SipTxnKey) (tag : SipChars) (last : Option Nat) (keys : List SipTxnKey) : Prop :=
  match last with
  | none => keys.filter (matchesTag own tag) = []
  | some n => ∃ key, keys.filter (matchesTag own tag) = [key] ∧ key.rSeqNum = n ∧
      key.toTag.isSome = true ∧ 0 < n ∧ n < 2 ^ 32

theorem Stored.toTag_isSome {last : Option Nat} (h : Stored own tag last keys)
    (hmem : stored ∈ keys) (hmatches : matchesTag own tag stored = true) :
    stored.toTag.isSome = true := by
  have hfilter : stored ∈ keys.filter (matchesTag own tag) :=
    List.mem_filter.mpr ⟨hmem, hmatches⟩
  cases last with
  | none =>
      have hnil : keys.filter (matchesTag own tag) = [] := h
      rw [hnil] at hfilter
      exact absurd hfilter List.not_mem_nil
  | some n =>
      obtain ⟨key, hkey, -, htag, -⟩ := h
      rw [hkey, List.mem_singleton] at hfilter
      rw [hfilter]
      exact htag

theorem setStoredRSeq_of_not_mem {found : SipTxnKey} (rSeq : Nat) (h : found ∉ keys) :
    setStoredRSeq keys found rSeq = keys := by
  induction keys with
  | nil => rfl
  | cons key keys ih =>
      have hne : key ≠ found := fun heq => h (heq ▸ List.mem_cons_self)
      rw [setStoredRSeq, if_neg hne, ih fun hmem => h (List.mem_cons_of_mem _ hmem)]

theorem length_setStoredRSeq (keys : List SipTxnKey) (found : SipTxnKey) (rSeq : Nat) :
    (setStoredRSeq keys found rSeq).length = keys.length := by
  induction keys with
  | nil => rfl
  | cons key keys ih =>
      rw [setStoredRSeq]
      split
      · rfl
      · rw [List.length_cons, ih, List.length_cons]

theorem filter_setStoredRSeq (own : SipTxnKey) (tag : SipChars) (keys : List SipTxnKey)
    (found : SipTxnKey) (rSeq : Nat) :
    (setStoredRSeq keys found rSeq).filter (matchesTag own tag) =
      setStoredRSeq (keys.filter (matchesTag own tag)) found rSeq := by
  induction keys with
  | nil => rfl
  | cons key keys ih =>
      simp only [setStoredRSeq]
      by_cases hfound : key = found
      · subst hfound
        simp only [↓reduceIte, List.filter_cons, matchesTag_setRSeq]
        split
        · simp only [setStoredRSeq, ↓reduceIte]
        · rename_i hmatches
          refine (setStoredRSeq_of_not_mem rSeq fun hmem => hmatches ?_).symm
          exact (List.mem_filter.mp hmem).2
      · simp only [if_neg hfound, List.filter_cons]
        split
        · simp only [setStoredRSeq, if_neg hfound, ih]
        · exact ih

/-- A key that does not match a To-tag changes nothing of what is stored for it. -/
theorem Stored.setStoredRSeq {last : Option Nat} (h : Stored own tag last keys)
    {found : SipTxnKey} (rSeq : Nat) (hfound : matchesTag own tag found = false) :
    Stored own tag last (setStoredRSeq keys found rSeq) := by
  have hfilter : (SipInviteClientTxn.setStoredRSeq keys found rSeq).filter (matchesTag own tag) =
      keys.filter (matchesTag own tag) := by
    rw [filter_setStoredRSeq]
    refine setStoredRSeq_of_not_mem rSeq fun hmem => ?_
    rw [(List.mem_filter.mp hmem).2] at hfound
    exact Bool.false_ne_true hfound.symm
  unfold Stored
  rw [hfilter]
  exact h

theorem Stored.add {last : Option Nat} (h : Stored own tag last keys)
    (hkey : matchesTag own tag key = false) : Stored own tag last (keys ++ [key]) := by
  have hfilter : (keys ++ [key]).filter (matchesTag own tag) =
      keys.filter (matchesTag own tag) := by
    simp [List.filter_append, hkey]
  unfold Stored
  rw [hfilter]
  exact h

end Keys

section Step

variable {s : Stack} {data : SipTxnFsmData} {tag tag' : SipChars} {last : Option Nat}

theorem matchesTag_makeKey (h : IsResponse s data)
    (htag : data.sipMsgIn.txnKey.toTag = some tag') :
    matchesTag s.txn.txnKey tag data.sipMsgIn.makeKey =
      stricmpEquals (some tag') (some tag) := by
  have hdeletes := deletes_of_fetchedBy h.fetched
  simp only [deletes, SipTxnKey.compareKeysForRPR, Bool.and_eq_true] at hdeletes
  obtain ⟨⟨⟨⟨hmethod, hcallId⟩, hfromTag⟩, -⟩, -⟩ := hdeletes
  have htag' : data.sipMsgIn.makeKey.toTag = some tag' := htag
  simp [matchesTag, SipTxnKey.compareKeysForRPR, hmethod, hcallId, hfromTag, htag']

theorem searchTxnKey_makeKey (h : IsResponse s data)
    (htag : data.sipMsgIn.txnKey.toTag = some tag') (hlength : s.txnKeyList.length < 2 ^ 16)
    (checkRSeq : Bool) :
    searchTxnKey s.txnKeyList data.sipMsgIn.makeKey checkRSeq =
      (s.txnKeyList.filter (matchesTag s.txn.txnKey tag')).find? fun stored =>
        !(checkRSeq && stored.rSeqNum != 0 && data.sipMsgIn.rSeq.getD 0 != 0) ||
          stored.rSeqNum == data.sipMsgIn.rSeq.getD 0 := by
  rw [searchTxnKey, List.take_of_length_le (Nat.le_of_lt hlength), List.find?_filter]
  congr 1
  funext stored
  rw [Bool.decide_and, Bool.decide_eq_true, Bool.decide_eq_true]
  exact compareKeysForRPR_makeKey h htag stored checkRSeq

/-- What a response does for one To-tag: the status is the verdict on its RSeq if it
carries the tag, and otherwise nothing changes for the tag. -/
structure Receives (s : Stack) (tag : SipChars) (last : Option Nat) (data : SipTxnFsmData)
    (result : FsmResult State) : Prop where
  txnState : result.stack.txn.txnState = .proceeding
  txnKey : result.stack.txn.txnKey = s.txn.txnKey
  length_le : result.stack.txnKeyList.length ≤ s.txnKeyList.length + 1
  carried : carries tag data = true →
    result.out.txnStatus = toStatus (verdict last (data.sipMsgIn.rSeq.getD 0)) ∧
      Stored s.txn.txnKey tag (remember last (data.sipMsgIn.rSeq.getD 0)) result.stack.txnKeyList
  other : carries tag data = false →
    Stored s.txn.txnKey tag last result.stack.txnKeyList

theorem stored_add (h : IsResponse s data) (hcarries : carries tag data = true)
    {keys : List SipTxnKey} (hstored : Stored s.txn.txnKey tag none keys) :
    Stored s.txn.txnKey tag (some (data.sipMsgIn.rSeq.getD 0))
      (keys ++ [data.sipMsgIn.makeKey]) := by
  have hnil : keys.filter (matchesTag s.txn.txnKey tag) = [] := hstored
  simp only [carries, Bool.and_eq_true] at hcarries
  obtain ⟨⟨-, hrSeq⟩, htag⟩ := hcarries
  obtain ⟨tag', htag'⟩ := Option.isSome_iff_exists.mp h.toTag
  obtain ⟨n, hn⟩ := Option.isSome_iff_exists.mp hrSeq
  have hmatches : matchesTag s.txn.txnKey tag data.sipMsgIn.makeKey = true := by
    rw [matchesTag_makeKey h htag', ← htag']
    exact htag
  have hbounds := h.rSeq n hn
  refine ⟨data.sipMsgIn.makeKey, ?_, rfl, h.toTag, ?_, ?_⟩
  · rw [List.filter_append, hnil, List.nil_append, List.filter_cons, if_pos hmatches]
    rfl
  · rw [hn]
    exact hbounds.1
  · rw [hn]
    exact hbounds.2

theorem Stored.not_matches (hstored : Stored s.txn.txnKey tag last s.txnKeyList)
    (htags : stricmpEquals (some tag') (some tag) = false) {found : SipTxnKey}
    (hmem : found ∈ s.txnKeyList) (hfound : matchesTag s.txn.txnKey tag' found = true) :
    matchesTag s.txn.txnKey tag found = false := by
  by_contra hmatches
  have hmatches : matchesTag s.txn.txnKey tag found = true := by simpa using hmatches
  obtain ⟨u, hu⟩ := Option.isSome_iff_exists.mp (hstored.toTag_isSome hmem hmatches)
  simp only [matchesTag, SipTxnKey.compareKeysForRPR, hu, Bool.and_eq_true] at hfound hmatches
  have htag' : stricmpEquals (some u) (some tag') = true := by simpa using hfound.1.2
  have htag : stricmpEquals (some u) (some tag) = true := by simpa using hmatches.1.2
  rw [stricmpEquals_comm] at htags htag
  rw [stricmpEquals_trans htag', htag] at htags
  exact Bool.false_ne_true htags.symm

theorem receives_carried (h : IsResponse s data) (hcarries : carries tag data = true)
    (hlength : s.txnKeyList.length < 2 ^ 16)
    (hstored : Stored s.txn.txnKey tag last s.txnKeyList) :
    (proceedingStateReceive1xxResponse data s).out.txnStatus =
        toStatus (verdict last (data.sipMsgIn.rSeq.getD 0)) ∧
      Stored s.txn.txnKey tag (remember last (data.sipMsgIn.rSeq.getD 0))
        (proceedingStateReceive1xxResponse data s).stack.txnKeyList := by
  have hcarries' := hcarries
  simp only [carries, Bool.and_eq_true, decide_eq_true_eq] at hcarries'
  obtain ⟨⟨hstatus, hrSeq⟩, htag⟩ := hcarries'
  obtain ⟨tag', htag'⟩ := Option.isSome_iff_exists.mp h.toTag
  obtain ⟨n, hn⟩ := Option.isSome_iff_exists.mp hrSeq
  have hbounds := h.rSeq n hn
  have hmatches : matchesTag s.txn.txnKey tag' = matchesTag s.txn.txnKey tag := by
    funext stored
    rw [htag'] at htag
    exact matchesTag_congr htag
  have hsearch (checkRSeq : Bool) := searchTxnKey_makeKey h htag' hlength checkRSeq
  rw [hmatches] at hsearch
  have hnumber : data.sipMsgIn.makeKey.rSeqNum = n := by
    rw [SipMessage.makeKey, hn]
    rfl
  have hcond : data.sipMsgIn.statusCode ≠ 100 ∧ data.sipMsgIn.hasRSeq = true := ⟨hstatus, hrSeq⟩
  cases last with
  | none =>
      have hnil : s.txnKeyList.filter (matchesTag s.txn.txnKey tag) = [] := hstored
      simp only [proceedingStateReceive1xxResponse, if_pos hcond, hsearch, hnil, List.find?_nil]
      exact ⟨rfl, stored_add h hcarries hstored⟩
  | some m =>
      obtain ⟨key, hkey, rfl, htoTag, hpos, hlt⟩ := hstored
      have hzero : key.rSeqNum ≠ 0 := Nat.ne_of_gt hpos
      have hzero' : n ≠ 0 := Nat.ne_of_gt hbounds.1
      have hsearch1 : searchTxnKey s.txnKeyList data.sipMsgIn.makeKey =
          if key.rSeqNum = n then some key else none := by
        rw [hsearch true, hkey, hn]
        by_cases heq : key.rSeqNum = n
        · simp [heq]
        · simp [heq, hzero, hzero']
      have hsearch2 : searchTxnKey s.txnKeyList data.sipMsgIn.makeKey false = some key := by
        rw [hsearch false, hkey]
        rfl
      simp only [proceedingStateReceive1xxResponse, if_pos hcond, hsearch1, hsearch2, hnumber, hn,
        Option.getD_some]
      by_cases heq : key.rSeqNum = n
      · simp only [if_pos heq]
        rw [remember, verdict, if_pos heq.symm]
        exact ⟨rfl, key, hkey, rfl, htoTag, hpos, hlt⟩
      · simp only [if_neg heq]
        by_cases hnext : n = key.rSeqNum + 1
        · have hnext' : ¬ uint32 (key.rSeqNum + 1) ≠ n := by
            rw [uint32, Nat.mod_eq_of_lt (by omega)]
            exact fun h => h hnext.symm
          have hverdict := (verdict_eq_delivered_iff key.rSeqNum n).mpr hnext
          rw [if_neg hnext', remember, hverdict, if_pos rfl]
          refine ⟨rfl, { key with rSeqNum := n }, ?_, rfl, htoTag, hbounds⟩
          change (setStoredRSeq s.txnKeyList key n).filter (matchesTag s.txn.txnKey tag) = _
          rw [filter_setStoredRSeq, hkey, setStoredRSeq, if_pos rfl]
        · have hnext' : uint32 (key.rSeqNum + 1) ≠ n := by
            simp only [uint32]
            omega
          have hverdict : verdict (some key.rSeqNum) n = .refused := by
            rw [verdict, if_neg (fun h => heq h.symm), if_neg hnext]
          rw [if_pos hnext', remember, hverdict, if_neg (by rintro ⟨⟩)]
          exact ⟨rfl, key, hkey, rfl, htoTag, hpos, hlt⟩

theorem receives_other (h : IsResponse s data) (hcarries : carries tag data = false)
    (hlength : s.txnKeyList.length < 2 ^ 16)
    (hstored : Stored s.txn.txnKey tag last s.txnKeyList) :
    Stored s.txn.txnKey tag last (proceedingStateReceive1xxResponse data s).stack.txnKeyList := by
  by_cases hcond : data.sipMsgIn.statusCode ≠ 100 ∧ data.sipMsgIn.hasRSeq = true
  · obtain ⟨tag', htag'⟩ := Option.isSome_iff_exists.mp h.toTag
    have htags : stricmpEquals (some tag') (some tag) = false := by
      simpa [carries, hcond.1, hcond.2, htag'] using hcarries
    have hsearch := searchTxnKey_makeKey h htag' hlength false
    simp only [proceedingStateReceive1xxResponse, if_pos hcond]
    cases searchTxnKey s.txnKeyList data.sipMsgIn.makeKey with
    | some stored => exact hstored
    | none =>
        cases hfound : searchTxnKey s.txnKeyList data.sipMsgIn.makeKey false with
        | none => exact hstored.add (by rw [matchesTag_makeKey h htag', htags])
        | some found =>
            rw [hfound] at hsearch
            have hmem := List.mem_filter.mp (List.mem_of_find?_eq_some hsearch.symm)
            by_cases hnext : uint32 (found.rSeqNum + 1) ≠ data.sipMsgIn.makeKey.rSeqNum
            · simp only [if_pos hnext]
              exact hstored
            · simp only [if_neg hnext]
              exact hstored.setStoredRSeq _ (hstored.not_matches htags hmem.1 hmem.2)
  · simp only [proceedingStateReceive1xxResponse, if_neg hcond]
    exact hstored

theorem receives_proceeding (h : IsResponse s data) (hstate : s.txn.txnState = .proceeding)
    (hlength : s.txnKeyList.length < 2 ^ 16)
    (hstored : Stored s.txn.txnKey tag last s.txnKeyList) :
    Receives s tag last data (fsm.invokeFsm (.recv1xxResp data) s) := by
  have hinvoke : fsm.invokeFsm (.recv1xxResp data) s =
      proceedingStateReceive1xxResponse data s := by
    change runAction _ (table s.txn.txnState (.recv1xxResp data)) s = _
    rw [hstate]
    rfl
  rw [hinvoke]
  have hframe : (proceedingStateReceive1xxResponse data s).stack.txn = s.txn ∧
      (proceedingStateReceive1xxResponse data s).stack.txnKeyList.length ≤
        s.txnKeyList.length + 1 := by
    rcases proceedingStateReceive1xxResponse_cases data hstate with
      ⟨-, hstack⟩ | ⟨found, rSeq, -, hstack⟩ | ⟨-, hstack⟩
    · rw [hstack]
      exact ⟨rfl, Nat.le_succ _⟩
    · rw [hstack]
      refine ⟨rfl, ?_⟩
      simp [length_setStoredRSeq]
    · rw [hstack]
      simp [SipStack.addKey, addTxnKey]
  obtain ⟨htxn, hle⟩ := hframe
  exact ⟨by rw [htxn, hstate], by rw [htxn], hle,
    fun hcarries => receives_carried h hcarries hlength hstored,
    fun hcarries => receives_other h hcarries hlength hstored⟩

/-- The first response, in the state Calling: a reliable one is stored without a
search. -/
theorem receives_calling (h : IsResponse s data) (hstate : s.txn.txnState = .calling)
    (hstored : Stored s.txn.txnKey tag none s.txnKeyList) :
    Receives s tag none data (fsm.invokeFsm (.recv1xxResp data) s) := by
  have hinvoke : fsm.invokeFsm (.recv1xxResp data) s = callingStateReceive1xxResponse data s := by
    change runAction _ (table s.txn.txnState (.recv1xxResp data)) s = _
    rw [hstate]
    rfl
  rw [hinvoke]
  unfold callingStateReceive1xxResponse
  by_cases hcond : data.sipMsgIn.statusCode ≠ 100 ∧ data.sipMsgIn.hasRSeq = true
  · simp only [if_pos hcond]
    refine ⟨rfl, ?_, ?_, fun hcarries => ⟨rfl, ?_⟩, fun hcarries => ?_⟩
    · simp [SipTxn.setTxnState]
    · simp [SipStack.addKey, addTxnKey]
    · have hadd := stored_add h hcarries hstored
      simpa [remember, verdict, SipStack.addKey, addTxnKey] using hadd
    · obtain ⟨tag', htag'⟩ := Option.isSome_iff_exists.mp h.toTag
      have htags : stricmpEquals (some tag') (some tag) = false := by
        simpa [carries, hcond.1, hcond.2, htag'] using hcarries
      have hadd := hstored.add (show matchesTag s.txn.txnKey tag data.sipMsgIn.makeKey = false by
        rw [matchesTag_makeKey h htag', htags])
      simpa [SipStack.addKey, addTxnKey] using hadd
  · simp only [if_neg hcond]
    refine ⟨rfl, ?_, ?_, fun hcarries => ?_, fun _ => ?_⟩
    · simp [SipTxn.setTxnState]
    · simp
    · simp only [carries, Bool.and_eq_true, decide_eq_true_eq] at hcarries
      exact absurd hcarries.1 hcond
    · simpa using hstored

end Step

section Run

variable {tag : SipChars} {last : Option Nat}

theorem IsResponse.congr {s s' : Stack} {data : SipTxnFsmData} (h : IsResponse s data)
    (hkey : s'.txn.txnKey = s.txn.txnKey) : IsResponse s' data := by
  refine ⟨⟨h.fetched.1, ?_⟩, h.toTag, h.rSeq⟩
  rw [hkey]
  exact h.fetched.2

theorem statusesOf_cons {s : Stack} {data : SipTxnFsmData} {responses : List SipTxnFsmData}
    (hreceives : Receives s tag last data (fsm.invokeFsm (.recv1xxResp data) s))
    (hrest : ∀ last', Stored s.txn.txnKey tag last'
        (fsm.invokeFsm (.recv1xxResp data) s).stack.txnKeyList →
      statusesOf tag responses (statuses responses (fsm.invokeFsm (.recv1xxResp data) s).stack) =
        (judge last' (rSeqsOf tag responses)).map toStatus) :
    statusesOf tag (data :: responses) (statuses (data :: responses) s) =
      (judge last (rSeqsOf tag (data :: responses))).map toStatus := by
  unfold statusesOf rSeqsOf at hrest ⊢
  simp only [statuses, List.zip_cons_cons, List.filter_cons]
  cases hcarries : carries tag data with
  | true =>
      obtain ⟨hstatus, hstored⟩ := hreceives.carried hcarries
      simp only [↓reduceIte, List.map_cons, judge, hstatus, hrest _ hstored]
  | false =>
      simp only [Bool.false_eq_true, ↓reduceIte]
      exact hrest last (hreceives.other hcarries)

theorem statusesOf_proceeding (responses : List SipTxnFsmData) {s : Stack}
    (hstate : s.txn.txnState = .proceeding)
    (hresponses : ∀ data ∈ responses, IsResponse s data)
    (hlength : s.txnKeyList.length + responses.length ≤ 2 ^ 16)
    (hstored : Stored s.txn.txnKey tag last s.txnKeyList) :
    statusesOf tag responses (statuses responses s) =
      (judge last (rSeqsOf tag responses)).map toStatus := by
  induction responses generalizing s last with
  | nil => rfl
  | cons data responses ih =>
      rw [List.length_cons] at hlength
      have hreceives := receives_proceeding (hresponses data List.mem_cons_self) hstate (by omega)
        hstored
      refine statusesOf_cons hreceives fun last' hstored' => ?_
      refine ih hreceives.txnState (fun data hmem => ?_) ?_ ?_
      · exact (hresponses data (List.mem_cons_of_mem _ hmem)).congr hreceives.txnKey
      · have := hreceives.length_le
        omega
      · rw [hreceives.txnKey]
        exact hstored'

/-- The reliable responses of each To-tag are judged by the RSeq delivered last for the
tag alone, whatever else is received: those that are delivered have consecutive
values. -/
theorem statusesOf_eq_judge (s : Stack) (hstate : s.txn.txnState = .calling)
    (responses : List SipTxnFsmData) (hresponses : ∀ data ∈ responses, IsResponse s data)
    (hlength : s.txnKeyList.length + responses.length ≤ 2 ^ 16) (tag : SipChars)
    (hfresh : ∀ key ∈ s.txnKeyList, matchesTag s.txn.txnKey tag key = false) :
    statusesOf tag responses (statuses responses s) =
        (judge none (rSeqsOf tag responses)).map toStatus ∧
      ∃ n k, (((rSeqsOf tag responses).zip (statusesOf tag responses (statuses responses s))).filter
        (·.2 = .validMessage)).map Prod.fst = List.range' n k := by
  have hjudge : statusesOf tag responses (statuses responses s) =
      (judge none (rSeqsOf tag responses)).map toStatus := by
    cases responses with
    | nil => rfl
    | cons data responses =>
        have hstored : Stored s.txn.txnKey tag none s.txnKeyList := by
          refine List.filter_eq_nil_iff.mpr fun key hmem => ?_
          rw [hfresh key hmem]
          exact Bool.false_ne_true
        rw [List.length_cons] at hlength
        have hreceives := receives_calling (hresponses data List.mem_cons_self) hstate hstored
        refine statusesOf_cons hreceives fun last' hstored' => ?_
        refine statusesOf_proceeding responses hreceives.txnState (fun data hmem => ?_) ?_ ?_
        · exact (hresponses data (List.mem_cons_of_mem _ hmem)).congr hreceives.txnKey
        · have := hreceives.length_le
          omega
        · rw [hreceives.txnKey]
          exact hstored'
  refine ⟨hjudge, ?_⟩
  rw [hjudge]
  obtain ⟨n, k, hdelivered⟩ := delivered_consecutive (rSeqsOf tag responses)
  refine ⟨n, k, ?_⟩
  rw [← hdelivered, delivered_eq_filter]
  have hvalid : (fun response : Nat × TxnStatus => decide (response.2 = .validMessage)) ∘
      Prod.map id toStatus = fun response => decide (response.2 = .delivered) := by
    funext ⟨number, verdict⟩
    cases verdict <;> rfl
  rw [List.zip_map_right, List.filter_map, List.map_map, hvalid]
  rfl

end Run

section Example

/-- A reliable 183 response with To-tag t and some RSeq. -/
def reliable183 (rSeq : Nat) : SipTxnFsmData :=
  { exampleData methodInvite .inviteClient with
    sipMsgIn :=
      ⟨{ exampleKey methodInvite .inviteClient with toTag := some ['t'] }, 183, some rSeq, none⟩ }

/-- An INVITE request has been sent, with some keys in the list. -/
def inviteSent (keys : List SipTxnKey) : Stack :=
  (fsm.invokeFsm (.sendInvReq (exampleData methodInvite .inviteClient))
    (newStack (newTxn .idle (exampleKey methodInvite .inviteClient)
      exampleValues.toTxnTimerValues) keys 0)).stack

theorem isResponse_reliable183 {rSeq : Nat} (hpos : 0 < rSeq) (hlt : rSeq < 2 ^ 32) :
    IsResponse (inviteSent []) (reliable183 rSeq) := by
  refine ⟨⟨rfl, ?_⟩, rfl, ?_⟩
  · change (inviteSent []).txn.txnKey.compareKeys
      { (reliable183 rSeq).sipMsgIn.makeKey with txnType := some .inviteClient } = true
    rfl
  · rintro n hn
    obtain rfl : rSeq = n := Option.some.inj hn
    exact ⟨hpos, hlt⟩

/-- RSeq 1, 2, 2 and 4. -/
theorem statusesOf_reliable183 :
    statusesOf ['t'] [reliable183 1, reliable183 2, reliable183 2, reliable183 4]
        (statuses [reliable183 1, reliable183 2, reliable183 2, reliable183 4] (inviteSent [])) =
      [.validMessage, .validMessage, .retransmission, .strayResp] := by
  have hkeys : (inviteSent []).txnKeyList = [] := rfl
  have hresponses : ∀ data ∈ [reliable183 1, reliable183 2, reliable183 2, reliable183 4],
      IsResponse (inviteSent []) data := by
    intro data hmem
    simp only [List.mem_cons, List.not_mem_nil, or_false] at hmem
    rcases hmem with rfl | rfl | rfl | rfl <;>
      exact isResponse_reliable183 (by decide) (by decide)
  have hjudge := statusesOf_eq_judge (inviteSent []) rfl
    [reliable183 1, reliable183 2, reliable183 2, reliable183 4] hresponses
    (by rw [hkeys]; decide) ['t'] (by rw [hkeys]; intro key hkey; cases hkey)
  have hrSeqs : rSeqsOf ['t'] [reliable183 1, reliable183 2, reliable183 2, reliable183 4] =
      [1, 2, 2, 4] := rfl
  rw [hjudge.1, hrSeqs]
  rfl

/-- RSeq 1, 2 and 1: the repetition of a response that is not the last one delivered is
stray.  And with a key of an earlier transaction of the dialog left in the list RSeq 2
is stray after RSeq 1. -/
theorem not_statuses :
    statuses [reliable183 1, reliable183 2, reliable183 1] (inviteSent []) =
        [.validMessage, .validMessage, .strayResp] ∧
      statuses [reliable183 1, reliable183 2] (inviteSent [(reliable183 5).sipMsgIn.makeKey]) =
        [.validMessage, .strayResp] := by
  decide

end Example

end ImsStack.Txn.RprOrder
