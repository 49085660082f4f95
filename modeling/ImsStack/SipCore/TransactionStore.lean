import Mathlib.Data.List.Nodup
import Mathlib.Data.Nat.Basic
import ImsStack.Library.HashBuckets
import ImsStack.SipCore.SipStackState

/-!
The transaction store against a scan of all transactions in the order in which they were added,
over every sequence of operations.
-/

namespace ImsStack.Platform.ImsMap

variable {ν : Type} {before after : List (Nat × ν)} {k : Nat}

theorem getIndexOfKey_absent (hbefore : ∀ p ∈ before, p.1 < k) (hafter : ∀ p ∈ after, k < p.1) :
    getIndexOfKey (before ++ after) k = none := by
  unfold getIndexOfKey
  rw [List.findIdx?_eq_none_iff]
  intro p hp
  rw [decide_eq_false_iff_not]
  rcases List.mem_append.mp hp with hp | hp
  · exact Nat.ne_of_lt (hbefore p hp)
  · exact Nat.ne_of_gt (hafter p hp)

theorem getIndexOfKey_present (hbefore : ∀ p ∈ before, p.1 < k) (value : ν) :
    getIndexOfKey (before ++ (k, value) :: after) k = some before.length := by
  induction before with
  | nil => simp [getIndexOfKey, List.findIdx?_cons]
  | cons p before ih =>
      have hne : p.1 ≠ k := Nat.ne_of_lt (hbefore p List.mem_cons_self)
      have hrest := ih fun q hq => hbefore q (List.mem_cons_of_mem p hq)
      unfold getIndexOfKey at hrest ⊢
      rw [List.cons_append, List.findIdx?_cons, if_neg (by simpa using hne), hrest]
      rfl

theorem getOrderOf_absent (hbefore : ∀ p ∈ before, p.1 < k) (hafter : ∀ p ∈ after, k < p.1) :
    getOrderOf (before ++ after) k = before.length := by
  unfold getOrderOf
  induction before with
  | nil =>
      cases after with
      | nil => rfl
      | cons p after =>
          rw [List.nil_append, List.findIdx_cons, decide_eq_true (hafter p List.mem_cons_self)]
          rfl
  | cons p before ih =>
      have hlt : ¬k < p.1 := Nat.lt_asymm (hbefore p List.mem_cons_self)
      rw [List.cons_append, List.findIdx_cons, decide_eq_false hlt,
        ih fun q hq => hbefore q (List.mem_cons_of_mem p hq)]
      rfl

theorem add_absent (hbefore : ∀ p ∈ before, p.1 < k) (hafter : ∀ p ∈ after, k < p.1)
    (value : ν) : add (before ++ after) k value = before ++ (k, value) :: after := by
  have hinsert : ∀ l : List (Nat × ν),
      (l ++ after).insertIdx l.length (k, value) = l ++ (k, value) :: after := by
    intro l
    induction l with
    | nil => rfl
    | cons p l ih => exact congrArg (p :: ·) ih
  unfold add
  rw [getIndexOfKey_absent hbefore hafter, getOrderOf_absent hbefore hafter]
  exact hinsert before

theorem getValueAt_present (value : ν) :
    getValueAt (before ++ (k, value) :: after) before.length = some value := by
  simp [getValueAt]

theorem setValueAt_present (value value' : ν) :
    setValueAt (before ++ (k, value) :: after) before.length value' =
      before ++ (k, value') :: after := by
  unfold setValueAt
  induction before with
  | nil => rfl
  | cons p before ih => exact congrArg (p :: ·) ih

theorem removeAt_present (value : ν) :
    removeAt (before ++ (k, value) :: after) before.length = before ++ after := by
  unfold removeAt
  induction before with
  | nil => rfl
  | cons p before ih => exact congrArg (p :: ·) ih

end ImsStack.Platform.ImsMap

namespace ImsStack.SipCore

open HashBuckets ImsStack.Platform
open ImsStack.Txn (SipTxnKey)

variable {τ : Type}

/-- All transactions in the order in which they were added. -/
structure ScannedStore (τ : Type) where
  transactions : List (SipStackTransaction τ)
  nextSerial : Nat

namespace ScannedStore

def new : ScannedStore τ where
  transactions := []
  nextSerial := 0

/-- The first transaction that the key is compared to successfully. -/
def find (a : ScannedStore τ) (key : SipTxnKey) : Option (SipStackTransaction τ) :=
  a.transactions.find? fun transaction => transaction.compareKey key

def add (a : ScannedStore τ) (key : SipTxnKey) (txn : τ) : ScannedStore τ where
  transactions := a.transactions ++ [⟨a.nextSerial, key, txn⟩]
  nextSerial := a.nextSerial + 1

/-- The first transaction that matches is taken out, if that is asked for. -/
def remove (a : ScannedStore τ) (key : SipTxnKey) (option : Int) : ScannedStore τ :=
  if option = TXN_REMOVE then
    { a with transactions := a.transactions.eraseP fun transaction => transaction.compareKey key }
  else a

def step (a : ScannedStore τ) : StoreOp τ → TxnResult τ × ScannedStore τ
  | .add key txn => (⟨true, .unset⟩, a.add key txn)
  | .find key => (.ofPointer (a.find key), a)
  | .remove key option => (.ofPointer (a.find key), a.remove key option)
  | .fetch key option txn =>
      match a.find key with
      | some transaction => (⟨true, .stored transaction⟩, a)
      | none => if option = TXN_CREATE then (⟨true, .unset⟩, a.add key txn) else (⟨false, .null⟩, a)
  | .release key option =>
      match a.find key with
      | some transaction =>
          (⟨true, if option = TXN_REMOVE then .stored transaction else .unset⟩, a.remove key option)
      | none => (⟨false, .null⟩, a)
  | .write serial write =>
      (⟨true, .unset⟩,
        { a with transactions := a.transactions.map (SipStackTransaction.writeKey serial write) })

def run (a : ScannedStore τ) : List (StoreOp τ) → List (TxnResult τ) × ScannedStore τ
  | [] => ([], a)
  | op :: ops =>
      let first := a.step op
      let rest := first.2.run ops
      (first.1 :: rest.1, rest.2)

end ScannedStore

/-- The hash that a transaction is stored under. -/
def SipStackTransaction.hash (charValue : Char → UInt32) (transaction : SipStackTransaction τ) :
    Nat :=
  getHashCode charValue transaction.key.callId

/-- The buckets are those of the transactions of the scan. -/
structure Refines (charValue : Char → UInt32) (s : SipStackState τ) (a : ScannedStore τ) :
    Prop where
  represents :
    Represents (SipStackTransaction.hash charValue) s.txnAggregate a.transactions
  nextSerial : s.nextSerial = a.nextSerial

theorem Refines.new (charValue : Char → UInt32) :
    Refines charValue (SipStackState.new : SipStackState τ) ScannedStore.new where
  represents := Represents.nil
  nextSerial := rfl

variable {charValue : Char → UInt32} {s : SipStackState τ} {a : ScannedStore τ}

/-- Only transactions with the Call-ID of the key match it, and so have its hash. -/
theorem hash_of_compareKey (charValue : Char → UInt32) (key : SipTxnKey)
    (transaction : SipStackTransaction τ)
    (h : transaction.compareKey key = true) :
    transaction.hash charValue = getHashCode charValue key.callId := by
  unfold SipStackTransaction.compareKey SipTxnKey.compareKeys at h
  simp only [Bool.and_eq_true] at h
  obtain ⟨⟨⟨-, hcallId⟩, -⟩, -⟩ := h.1
  unfold SipStackTransaction.hash
  cases hstored : transaction.key.callId with
  | none => simp [hstored, ImsStack.Txn.strcmpEquals] at hcallId
  | some stored =>
      cases hkey : key.callId with
      | none => simp [hstored, hkey, ImsStack.Txn.strcmpEquals] at hcallId
      | some generated =>
          rw [hstored, hkey] at hcallId
          rw [of_decide_eq_true hcallId]

theorem ScannedStore.remove_of_find {key : SipTxnKey} (h : a.find key = none) (option : Int) :
    a.remove key option = a := by
  unfold ScannedStore.remove
  rw [List.eraseP_of_forall_not (List.find?_eq_none.mp h)]
  exact ite_self a

theorem Refines.findTransaction (h : Refines charValue s a) (key : SipTxnKey) :
    s.findTransaction charValue key = a.find key := by
  obtain ⟨before, after, hsplit, hbefore, hafter⟩ :=
    h.represents.split (getHashCode charValue key.callId)
  unfold SipStackState.findTransaction ScannedStore.find
  rw [hsplit, ← find?_withHash (hash_of_compareKey charValue key)]
  cases withHash (SipStackTransaction.hash charValue) (getHashCode charValue key.callId)
      a.transactions with
  | nil =>
      unfold bucketAt
      rw [List.nil_append, ImsMap.getIndexOfKey_absent hbefore hafter]
      rfl
  | cons transaction rest =>
      unfold bucketAt
      rw [List.singleton_append, ImsMap.getIndexOfKey_present hbefore]
      simp only
      rw [ImsMap.getValueAt_present]
      rfl

theorem Refines.addTransaction (h : Refines charValue s a) (key : SipTxnKey) (txn : τ) :
    (s.addTransaction charValue key txn).1 = true ∧
      Refines charValue (s.addTransaction charValue key txn).2 (a.add key txn) := by
  obtain ⟨before, after, hsplit, hbefore, hafter⟩ :=
    h.represents.split (getHashCode charValue key.callId)
  have hrep := h.represents
  rw [hsplit] at hrep
  have hother : ∀ k', k' ≠ getHashCode charValue key.callId →
      withHash (SipStackTransaction.hash charValue) k' (a.add key txn).transactions =
        withHash (SipStackTransaction.hash charValue) k' a.transactions := by
    intro k' hne
    have hnone := @withHash_singleton_ne _ _ _ (SipStackTransaction.hash charValue) k'
      ⟨a.nextSerial, key, txn⟩ hne
    unfold ScannedStore.add
    rw [withHash_append, hnone, List.append_nil]
  have hself : withHash (SipStackTransaction.hash charValue) (getHashCode charValue key.callId)
      (a.add key txn).transactions =
        withHash (SipStackTransaction.hash charValue) (getHashCode charValue key.callId)
          a.transactions ++ [⟨a.nextSerial, key, txn⟩] := by
    unfold ScannedStore.add
    rw [withHash_append]
    exact congrArg _ (withHash_singleton _)
  have hnew := hrep.replace (a.add key txn).transactions hbefore hafter hother
  rw [hself] at hnew
  unfold SipStackState.addTransaction
  simp only
  rw [hsplit, h.nextSerial]
  cases hbucket : withHash (SipStackTransaction.hash charValue)
      (getHashCode charValue key.callId) a.transactions with
  | nil =>
      rw [hbucket] at hnew
      unfold bucketAt
      rw [List.nil_append, ImsMap.getIndexOfKey_absent hbefore hafter]
      simp only
      rw [ImsMap.add_absent hbefore hafter]
      exact ⟨trivial, hnew, rfl⟩
  | cons transaction rest =>
      rw [hbucket] at hnew
      unfold bucketAt
      rw [List.singleton_append, ImsMap.getIndexOfKey_present hbefore]
      simp only
      rw [ImsMap.getValueAt_present, ImsMap.setValueAt_present]
      exact ⟨trivial, hnew, rfl⟩

theorem Refines.removeTransaction (h : Refines charValue s a) (key : SipTxnKey) (option : Int) :
    (s.removeTransaction charValue key option).1 = a.find key ∧
      Refines charValue (s.removeTransaction charValue key option).2 (a.remove key option) := by
  obtain ⟨before, after, hsplit, hbefore, hafter⟩ :=
    h.represents.split (getHashCode charValue key.callId)
  have hmatch := hash_of_compareKey (τ := τ) charValue key
  have hrep := h.represents
  rw [hsplit] at hrep
  have hnew := hrep.replace (a.transactions.eraseP fun t => t.compareKey key) hbefore hafter
    fun k' hne => withHash_eraseP_ne hmatch hne a.transactions
  rw [withHash_eraseP hmatch] at hnew
  have hfind : a.find key = (withHash (SipStackTransaction.hash charValue)
      (getHashCode charValue key.callId) a.transactions).find? fun t => t.compareKey key :=
    (find?_withHash hmatch a.transactions).symm
  unfold SipStackState.removeTransaction
  rw [hsplit]
  cases hbucket : withHash (SipStackTransaction.hash charValue)
      (getHashCode charValue key.callId) a.transactions with
  | nil =>
      rw [hbucket] at hfind
      rw [ScannedStore.remove_of_find hfind]
      unfold bucketAt
      rw [List.nil_append, ImsMap.getIndexOfKey_absent hbefore hafter]
      exact ⟨hfind.symm, h⟩
  | cons transaction rest =>
      rw [hbucket] at hfind hnew
      rw [List.find?_eq_bind_findIdx?_getElem?] at hfind
      rw [List.eraseP_eq_eraseIdx] at hnew
      unfold bucketAt
      rw [List.singleton_append, ImsMap.getIndexOfKey_present hbefore]
      simp only
      rw [ImsMap.getValueAt_present, Option.getD_some]
      cases hi : (transaction :: rest).findIdx? fun t => t.compareKey key with
      | none =>
          rw [hi] at hfind
          rw [ScannedStore.remove_of_find hfind]
          exact ⟨hfind.symm, h⟩
      | some i =>
          rw [hi] at hfind hnew
          unfold ScannedStore.remove
          simp only
          split
          · refine ⟨hfind.symm, ?_, h.nextSerial⟩
            cases hrest : (transaction :: rest).eraseIdx i with
            | nil =>
                simp only [hrest] at hnew
                simp only [List.isEmpty_nil, if_true]
                rw [ImsMap.removeAt_present]
                exact hnew
            | cons first others =>
                simp only [hrest] at hnew
                simp only [List.isEmpty_cons, Bool.false_eq_true, if_false]
                rw [ImsMap.setValueAt_present]
                exact hnew
          · exact ⟨hfind.symm, h⟩

theorem Refines.writeKey (h : Refines charValue s a) (serial : Nat) (write : KeyWrite) :
    Refines charValue (s.writeKey serial write)
      { a with transactions := a.transactions.map (SipStackTransaction.writeKey serial write) }
    where
  represents := by
    apply h.represents.map
    intro transaction
    unfold SipStackTransaction.hash SipStackTransaction.writeKey
    split
    · rw [write.apply_callId]
    · rfl
  nextSerial := h.nextSerial

theorem Refines.step (h : Refines charValue s a) (op : StoreOp τ) :
    (s.step charValue op).1 = (a.step op).1 ∧
      Refines charValue (s.step charValue op).2 (a.step op).2 := by
  cases op with
  | add key txn =>
      obtain ⟨hstatus, hafter⟩ := h.addTransaction key txn
      refine ⟨?_, hafter⟩
      change TxnResult.mk (s.addTransaction charValue key txn).1 .unset = _
      rw [hstatus]
      rfl
  | find key =>
      refine ⟨?_, h⟩
      change TxnResult.ofPointer (s.findTransaction charValue key) = _
      rw [h.findTransaction]
      rfl
  | remove key option =>
      obtain ⟨hfound, hafter⟩ := h.removeTransaction key option
      refine ⟨?_, hafter⟩
      change TxnResult.ofPointer (s.removeTransaction charValue key option).1 = _
      rw [hfound]
      rfl
  | fetch key option txn =>
      obtain ⟨hstatus, hafter⟩ := h.addTransaction key txn
      unfold SipStackState.step SipStackState.fetchTransaction ScannedStore.step
      simp only
      rw [h.findTransaction]
      cases a.find key with
      | some transaction => exact ⟨rfl, h⟩
      | none =>
          simp only
          split
          · rw [hstatus]
            exact ⟨rfl, hafter⟩
          · exact ⟨rfl, h⟩
  | release key option =>
      obtain ⟨hfound, hafter⟩ := h.removeTransaction key option
      unfold SipStackState.step SipStackState.releaseTransaction ScannedStore.step
      simp only
      rw [hfound]
      cases hfind : a.find key with
      | some transaction =>
          simp only
          split
          · exact ⟨rfl, hafter⟩
          · exact ⟨rfl, hafter⟩
      | none =>
          rw [ScannedStore.remove_of_find hfind] at hafter
          exact ⟨rfl, hafter⟩
  | write serial write => exact ⟨rfl, h.writeKey serial write⟩

theorem Refines.run (h : Refines charValue s a) (ops : List (StoreOp τ)) :
    (s.run charValue ops).1 = (a.run ops).1 ∧
      Refines charValue (s.run charValue ops).2 (a.run ops).2 := by
  induction ops generalizing s a with
  | nil => exact ⟨rfl, h⟩
  | cons op ops ih =>
      obtain ⟨hfirst, hafter⟩ := h.step op
      obtain ⟨hrest, hlast⟩ := ih hafter
      refine ⟨?_, hlast⟩
      change (s.step charValue op).1 :: ((s.step charValue op).2.run charValue ops).1 = _
      rw [hfirst, hrest]
      rfl

/-- Each transaction has a number of its own, below the next one. -/
structure ScannedStore.Numbered (a : ScannedStore τ) : Prop where
  nodup : (a.transactions.map SipStackTransaction.serial).Nodup
  lt_next : ∀ t ∈ a.transactions, t.serial < a.nextSerial

/-- The transaction with this number has been made, and is not in the store. -/
structure ScannedStore.Gone (serial : Nat) (a : ScannedStore τ) : Prop where
  lt_next : serial < a.nextSerial
  ne : ∀ t ∈ a.transactions, t.serial ≠ serial

/-- What an operation does to the transactions: one with the next number is added, some are taken
out, or the key of one is written to. -/
theorem ScannedStore.step_cases (a : ScannedStore τ) (op : StoreOp τ) :
    (∃ key txn, (a.step op).2 = a.add key txn) ∨
      (∃ rest, rest.Sublist a.transactions ∧ (a.step op).2 = { a with transactions := rest }) ∨
      ∃ serial write, (a.step op).2 =
        { a with transactions := a.transactions.map (SipStackTransaction.writeKey serial write) } := by
  have hremove : ∀ key option, ∃ rest, rest.Sublist a.transactions ∧
      a.remove key option = { a with transactions := rest } := by
    intro key option
    unfold ScannedStore.remove
    split
    · exact ⟨_, List.eraseP_sublist, rfl⟩
    · exact ⟨_, List.Sublist.refl _, rfl⟩
  cases op with
  | add key txn => exact .inl ⟨key, txn, rfl⟩
  | find key => exact .inr (.inl ⟨_, List.Sublist.refl _, rfl⟩)
  | remove key option => exact .inr (.inl (hremove key option))
  | fetch key option txn =>
      unfold ScannedStore.step
      simp only
      split
      · exact .inr (.inl ⟨_, List.Sublist.refl _, rfl⟩)
      · split
        · exact .inl ⟨key, txn, rfl⟩
        · exact .inr (.inl ⟨_, List.Sublist.refl _, rfl⟩)
  | release key option =>
      unfold ScannedStore.step
      simp only
      split
      · exact .inr (.inl (hremove key option))
      · exact .inr (.inl ⟨_, List.Sublist.refl _, rfl⟩)
  | write serial write => exact .inr (.inr ⟨serial, write, rfl⟩)

theorem SipStackTransaction.serial_writeKey (serial : Nat) (write : KeyWrite)
    (t : SipStackTransaction τ) : (t.writeKey serial write).serial = t.serial := by
  unfold writeKey
  split <;> rfl

theorem ScannedStore.Numbered.step (h : a.Numbered) (op : StoreOp τ) : (a.step op).2.Numbered := by
  rcases a.step_cases op with ⟨key, txn, heq⟩ | ⟨rest, hsub, heq⟩ | ⟨serial, write, heq⟩
  · rw [heq]
    constructor
    · unfold ScannedStore.add
      rw [List.map_append, List.nodup_append]
      refine ⟨h.nodup, List.nodup_singleton _, ?_⟩
      intro n hn n' hn' hsame
      obtain ⟨t, ht, rfl⟩ := List.mem_map.mp hn
      obtain rfl := List.mem_singleton.mp hn'
      exact absurd hsame (Nat.ne_of_lt (h.lt_next t ht))
    · intro t ht
      rcases List.mem_append.mp ht with ht | ht
      · exact Nat.lt_succ_of_lt (h.lt_next t ht)
      · obtain rfl := List.mem_singleton.mp ht
        exact Nat.lt_succ_self _
  · rw [heq]
    exact ⟨(hsub.map _).nodup h.nodup, fun t ht => h.lt_next t (hsub.subset ht)⟩
  · rw [heq]
    constructor
    · have hserials : (a.transactions.map (SipStackTransaction.writeKey serial write)).map
          SipStackTransaction.serial = a.transactions.map SipStackTransaction.serial := by
        rw [List.map_map]
        apply List.map_congr_left
        intro t _
        exact t.serial_writeKey serial write
      rw [hserials]
      exact h.nodup
    · intro t ht
      obtain ⟨t', ht', rfl⟩ := List.mem_map.mp ht
      rw [t'.serial_writeKey]
      exact h.lt_next t' ht'

theorem ScannedStore.Numbered.run (h : a.Numbered) (ops : List (StoreOp τ)) :
    (a.run ops).2.Numbered := by
  induction ops generalizing a with
  | nil => exact h
  | cons op ops ih => exact ih (h.step op)

theorem ScannedStore.Numbered.new : (ScannedStore.new : ScannedStore τ).Numbered where
  nodup := List.nodup_nil
  lt_next _ ht := absurd ht List.not_mem_nil

variable {serial : Nat}

theorem ScannedStore.Gone.step (h : a.Gone serial) (op : StoreOp τ) : (a.step op).2.Gone serial := by
  rcases a.step_cases op with ⟨key, txn, heq⟩ | ⟨rest, hsub, heq⟩ | ⟨written, write, heq⟩
  · rw [heq]
    refine ⟨Nat.lt_succ_of_lt h.lt_next, ?_⟩
    intro t ht
    rcases List.mem_append.mp ht with ht | ht
    · exact h.ne t ht
    · obtain rfl := List.mem_singleton.mp ht
      exact Nat.ne_of_gt h.lt_next
  · rw [heq]
    exact ⟨h.lt_next, fun t ht => h.ne t (hsub.subset ht)⟩
  · rw [heq]
    refine ⟨h.lt_next, ?_⟩
    intro t ht
    obtain ⟨t', ht', rfl⟩ := List.mem_map.mp ht
    rw [t'.serial_writeKey]
    exact h.ne t' ht'

theorem ScannedStore.mem_of_step {op : StoreOp τ} {t : SipStackTransaction τ}
    (h : (a.step op).1.out = .stored t) : t ∈ a.transactions := by
  have hpointer : ∀ key, (TxnResult.ofPointer (a.find key)).out = .stored t →
      t ∈ a.transactions := by
    intro key hout
    cases hfind : a.find key with
    | none =>
        rw [hfind] at hout
        cases hout
    | some found =>
        rw [hfind] at hout
        cases hout
        exact List.mem_of_find?_eq_some hfind
  cases op with
  | add key txn => cases h
  | find key => exact hpointer key h
  | remove key option => exact hpointer key h
  | fetch key option txn =>
      apply hpointer key
      unfold ScannedStore.step at h
      simp only at h
      split at h
      · rename_i hfind
        rw [hfind]
        exact h
      · split at h <;> cases h
  | release key option =>
      apply hpointer key
      unfold ScannedStore.step at h
      simp only at h
      split at h
      · rename_i hfind
        rw [hfind]
        split at h
        · exact h
        · cases h
      · cases h
  | write serial write => cases h

/-- No result hands the transaction out. -/
def NeverHandedOut (serial : Nat) (results : List (TxnResult τ)) : Prop :=
  ∀ result ∈ results, ∀ t, result.out = .stored t → t.serial ≠ serial

theorem ScannedStore.Gone.run (h : a.Gone serial) (ops : List (StoreOp τ)) :
    NeverHandedOut serial (a.run ops).1 := by
  induction ops generalizing a with
  | nil =>
      intro result hresult
      cases hresult
  | cons op ops ih =>
      intro result hresult t hout
      rcases List.mem_cons.mp hresult with rfl | hresult
      · exact h.ne t (mem_of_step hout)
      · exact ih (h.step op) result hresult t hout

/-- The operations that take a transaction out of the store. -/
def StoreOp.takesOut : StoreOp τ → Bool
  | .remove _ option => option = TXN_REMOVE
  | .release _ option => option = TXN_REMOVE
  | _ => false

theorem ScannedStore.gone_of_remove (h : a.Numbered) {key : SipTxnKey} {t : SipStackTransaction τ}
    (hfind : a.find key = some t) : (a.remove key TXN_REMOVE).Gone t.serial := by
  have hmem := List.mem_of_find?_eq_some hfind
  refine ⟨h.lt_next t hmem, ?_⟩
  obtain ⟨hmatch, front, back, hsplit, hfront⟩ := List.find?_eq_some_iff_append.mp hfind
  have hrest : (a.remove key TXN_REMOVE).transactions = front ++ back := by
    change (a.transactions.eraseP fun t => t.compareKey key) = _
    have hcons : (t :: back).eraseP (fun t => t.compareKey key) = back :=
      List.eraseP_cons_of_pos hmatch
    rw [hsplit, List.eraseP_append_right _ (by simpa using hfront), hcons]
  rw [hrest]
  have hnodup := h.nodup
  rw [hsplit, List.map_append, List.map_cons, List.nodup_middle, List.nodup_cons,
    ← List.map_append] at hnodup
  intro other hother hserial
  apply hnodup.1
  rw [← hserial]
  exact List.mem_map_of_mem hother

theorem ScannedStore.gone_of_takesOut (h : a.Numbered) {op : StoreOp τ}
    (htakes : op.takesOut = true) {t : SipStackTransaction τ}
    (hout : (a.step op).1.out = .stored t) : (a.step op).2.Gone t.serial := by
  cases op with
  | remove key option =>
      obtain rfl : option = TXN_REMOVE := of_decide_eq_true htakes
      cases hfind : a.find key with
      | none =>
          unfold ScannedStore.step at hout
          simp only [hfind] at hout
          cases hout
      | some found =>
          unfold ScannedStore.step at hout
          simp only [hfind] at hout
          cases hout
          exact gone_of_remove h hfind
  | release key option =>
      obtain rfl : option = TXN_REMOVE := of_decide_eq_true htakes
      cases hfind : a.find key with
      | none =>
          unfold ScannedStore.step at hout
          simp only [hfind] at hout
          cases hout
      | some found =>
          unfold ScannedStore.step at hout ⊢
          simp only [hfind] at hout ⊢
          cases hout
          exact gone_of_remove h hfind
  | add key txn => cases htakes
  | find key => cases htakes
  | fetch key option txn => cases htakes
  | write serial write => cases htakes

/-- The store after a sequence of operations. -/
def SipStackState.after (charValue : Char → UInt32) (ops : List (StoreOp τ)) : SipStackState τ :=
  ((new : SipStackState τ).run charValue ops).2

/-- Over every sequence of operations, each has the result that it has on the list of all
transactions in the order in which they were added; no bucket is empty; what has been taken out is
never handed out again; and without the option to remove, nothing is taken out. -/
theorem SipStackState.run_eq_scan (charValue : Char → UInt32) (ops : List (StoreOp τ)) :
    ((new : SipStackState τ).run charValue ops).1 = ((ScannedStore.new : ScannedStore τ).run ops).1 ∧
      (∀ bucket ∈ (after charValue ops).txnAggregate, bucket.2 ≠ []) ∧
      (∀ op t later, op.takesOut = true →
        ((after charValue ops).step charValue op).1.out = .stored t →
        NeverHandedOut t.serial
          ((((after charValue ops).step charValue op).2.run charValue later).1)) ∧
      ∀ key option, option ≠ TXN_REMOVE →
        ((after charValue ops).removeTransaction charValue key option).2 = after charValue ops ∧
        ((after charValue ops).releaseTransaction charValue key option).2 = after charValue ops := by
  obtain ⟨hresults, hrefines⟩ := (Refines.new (τ := τ) charValue).run ops
  refine ⟨hresults, fun bucket hbucket => hrefines.represents.ne_nil hbucket, ?_, ?_⟩
  · intro op t later htakes hout
    obtain ⟨hresult, hstep⟩ := hrefines.step op
    have hnumbered := (ScannedStore.Numbered.new (τ := τ)).run ops
    unfold after at hout ⊢
    rw [hresult] at hout
    rw [(hstep.run later).1]
    exact (ScannedStore.gone_of_takesOut hnumbered htakes hout).run later
  · intro key option hoption
    have hremove : ((after charValue ops).removeTransaction charValue key option).2 =
        after charValue ops := by
      unfold removeTransaction
      split
      · rfl
      · simp only
        split
        · rfl
        · rw [if_neg hoption]
    refine ⟨hremove, ?_⟩
    unfold releaseTransaction
    simp only
    split
    · exact hremove
    · rw [if_neg hoption]
      exact hremove

/-- The key of a BYE request. -/
def byeKey : SipTxnKey where
  rSeqNum := 0
  viaBranchParam := some ['z']
  viaHost := some ['h']
  method := some ['B', 'Y', 'E']
  cSeqNum := 1
  toTag := some ['t']
  fromTag := some ['f']
  callId := some ['c']
  respCode := 0
  txnType := some .nonInviteServer
  rules := ⟨true, true, false⟩

/-- A transaction that is released without the option to remove is handed out again. -/
theorem SipStackState.not_gone_when_released :
    ¬∀ (charValue : Char → UInt32) (ops later : List (StoreOp Nat)) (key : SipTxnKey)
      (option : Int) (t : SipStackTransaction Nat),
      (after charValue ops).findTransaction charValue key = some t →
      ((after charValue ops).releaseTransaction charValue key option).1.status = true →
      NeverHandedOut t.serial
        ((((after charValue ops).releaseTransaction charValue key option).2.run charValue
          later).1) := by
  intro h
  obtain ⟨-, hrefines⟩ := (Refines.new (τ := Nat) fun _ => 0).run [.fetch byeKey TXN_CREATE 7]
  obtain ⟨hreleased, hstep⟩ := hrefines.step (.release byeKey TXN_FETCH)
  have hfind := hrefines.findTransaction byeKey
  have hlater := (hstep.run [.fetch byeKey TXN_FETCH 0]).1
  have hgone := h (fun _ => 0) [.fetch byeKey TXN_CREATE 7] [.fetch byeKey TXN_FETCH 0] byeKey
    TXN_FETCH ⟨0, byeKey, 7⟩ hfind (congrArg TxnResult.status hreleased)
  have hresults : _ = [TxnResult.mk true (.stored ⟨0, byeKey, 7⟩)] := hlater
  apply hgone ⟨true, .stored ⟨0, byeKey, 7⟩⟩ ?_ ⟨0, byeKey, 7⟩ rfl rfl
  exact hresults ▸ List.mem_singleton.mpr rfl

end ImsStack.SipCore
