import Mathlib.Data.List.Basic
import ImsStack.Txn.SipTxn

/-!
The transaction store: a map from the hash of a Call-ID to the transactions that have it.
-/

namespace ImsStack.Platform

/-- `ImsMap`, a vector of pairs that is sorted by the first. -/
abbrev ImsMap (κ ν : Type) := List (κ × ν)

namespace ImsMap

variable {κ ν : Type} [DecidableEq κ] [LT κ] [DecidableLT κ]

/-- `GetIndexOfKey`; there is no index where the source has -1. -/
def getIndexOfKey (map : ImsMap κ ν) (key : κ) : Option Nat :=
  map.findIdx? fun pair => pair.1 = key

/-- `ImsSortedVector::GetOrderOf`: the position of the first pair with a greater key. -/
def getOrderOf (map : ImsMap κ ν) (key : κ) : Nat :=
  map.findIdx fun pair => key < pair.1

def add (map : ImsMap κ ν) (key : κ) (value : ν) : ImsMap κ ν :=
  match map.getIndexOfKey key with
  | none => map.insertIdx (map.getOrderOf key) (key, value)
  | some index => map.set index (key, value)

def getValueAt (map : ImsMap κ ν) (index : Nat) : Option ν :=
  map[index]?.map Prod.snd

/-- What is written through the reference that `GetValueAt` returns. -/
def setValueAt (map : ImsMap κ ν) (index : Nat) (value : ν) : ImsMap κ ν :=
  map.modify index fun pair => (pair.1, value)

def removeAt (map : ImsMap κ ν) (index : Nat) : ImsMap κ ν := map.eraseIdx index

end ImsMap

/-- `AString::GetHashCode`.  The compiler chooses whether a `char` is signed, and so what is
added for one. -/
def getHashCode (charValue : Char → UInt32) : Option (List Char) → Nat
  | none => 0
  | some value => (value.foldl step 0).toNat
where
  step (hValue : UInt32) (c : Char) : UInt32 :=
    let hValue := (hValue <<< 4) + charValue c
    let hTmp := hValue &&& 0xF0000000
    let hValue := if hTmp ≠ 0 then hValue ^^^ (hTmp >>> 24) else hValue
    hValue &&& ~~~hTmp

end ImsStack.Platform

namespace ImsStack.SipCore

open ImsStack.Platform
open ImsStack.Txn (SipTxnKey SipChars TxnType KeyRules)

/-- `SipStackTransaction`; `serial` says which object it is. -/
structure SipStackTransaction (τ : Type) where
  serial : Nat
  key : SipTxnKey
  txn : τ
  deriving Repr

/-- `CompareKey`, by `SipStack::CompareTxnKeys`. -/
def SipStackTransaction.compareKey {τ : Type} (transaction : SipStackTransaction τ)
    (key : SipTxnKey) : Bool :=
  transaction.key.compareKeys key

/-- `SipStackState`, with the number of transactions ever made. -/
structure SipStackState (τ : Type) where
  txnAggregate : ImsMap Nat (List (SipStackTransaction τ))
  nextSerial : Nat

/-- What an operation leaves in `pOutKey` and `pTxn`, or the pointer it returns. -/
inductive OutTxn (τ : Type) where
  | unset
  | null
  | stored (transaction : SipStackTransaction τ)
  deriving Repr

/-- The value an operation returns and what it hands out. -/
structure TxnResult (τ : Type) where
  status : Bool
  out : OutTxn τ
  deriving Repr

/-- A pointer to a transaction, or null. -/
def TxnResult.ofPointer {τ : Type} : Option (SipStackTransaction τ) → TxnResult τ
  | none => ⟨false, .null⟩
  | some transaction => ⟨true, .stored transaction⟩

def TXN_FETCH : Int := 0
def TXN_CREATE : Int := 1
def TXN_REMOVE : Int := 2

namespace SipStackState

variable {τ : Type} (charValue : Char → UInt32)

/-- The constructor. -/
def new : SipStackState τ where
  txnAggregate := []
  nextSerial := 0

def addTransaction (s : SipStackState τ) (key : SipTxnKey) (txn : τ) : Bool × SipStackState τ :=
  let transaction : SipStackTransaction τ := ⟨s.nextSerial, key, txn⟩
  let nKey := getHashCode charValue key.callId
  match s.txnAggregate.getIndexOfKey nKey with
  | some index =>
      let transactions := (s.txnAggregate.getValueAt index).getD []
      (true,
        { txnAggregate := s.txnAggregate.setValueAt index (transactions ++ [transaction])
          nextSerial := s.nextSerial + 1 })
  | none =>
      (true,
        { txnAggregate := s.txnAggregate.add nKey [transaction]
          nextSerial := s.nextSerial + 1 })

def findTransaction (s : SipStackState τ) (key : SipTxnKey) : Option (SipStackTransaction τ) :=
  match s.txnAggregate.getIndexOfKey (getHashCode charValue key.callId) with
  | none => none
  | some index =>
      ((s.txnAggregate.getValueAt index).getD []).find? fun transaction =>
        transaction.compareKey key

def removeTransaction (s : SipStackState τ) (key : SipTxnKey) (option : Int) :
    Option (SipStackTransaction τ) × SipStackState τ :=
  match s.txnAggregate.getIndexOfKey (getHashCode charValue key.callId) with
  | none => (none, s)
  | some index =>
      let transactions := (s.txnAggregate.getValueAt index).getD []
      match transactions.findIdx? fun transaction => transaction.compareKey key with
      | none => (none, s)
      | some i =>
          if option = TXN_REMOVE then
            let rest := transactions.eraseIdx i
            let txnAggregate :=
              if rest.isEmpty then s.txnAggregate.removeAt index
              else s.txnAggregate.setValueAt index rest
            (transactions[i]?, { s with txnAggregate })
          else (transactions[i]?, s)

def fetchTransaction (s : SipStackState τ) (key : SipTxnKey) (option : Int) (txn : τ) :
    TxnResult τ × SipStackState τ :=
  match s.findTransaction charValue key with
  | none =>
      if option = TXN_CREATE then
        let added := s.addTransaction charValue key txn
        (⟨added.1, .unset⟩, added.2)
      else (⟨false, .null⟩, s)
  | some transaction => (⟨true, .stored transaction⟩, s)

def releaseTransaction (s : SipStackState τ) (key : SipTxnKey) (option : Int) :
    TxnResult τ × SipStackState τ :=
  let removed := s.removeTransaction charValue key option
  match removed.1 with
  | none => (⟨false, .null⟩, removed.2)
  | some transaction =>
      if option = TXN_REMOVE then (⟨true, .stored transaction⟩, removed.2)
      else (⟨true, .unset⟩, removed.2)

end SipStackState

/-- The setters of `SipTxnKey`.  A stored key is shared with the transaction it belongs to, which
goes on calling them. -/
inductive KeyWrite where
  | setMethod (method : Option SipChars)
  | setCseqNum (cSeqNum : Nat)
  | setRSeq (rSeqNum : Nat)
  | setResponseCode (respCode : Nat)
  | setTxnType (txnType : Option TxnType)
  | setToTag (toTag : Option SipChars)
  | setRules (rules : KeyRules)
  deriving Repr

def KeyWrite.apply : KeyWrite → SipTxnKey → SipTxnKey
  | setMethod method, key => { key with method }
  | setCseqNum cSeqNum, key => { key with cSeqNum }
  | setRSeq rSeqNum, key => { key with rSeqNum }
  | setResponseCode respCode, key => { key with respCode }
  | setTxnType txnType, key => { key with txnType }
  | setToTag toTag, key => { key with toTag }
  | setRules rules, key => { key with rules }

theorem KeyWrite.apply_callId (write : KeyWrite) (key : SipTxnKey) :
    (write.apply key).callId = key.callId := by
  cases write <;> rfl

/-- The key of one stored transaction is written to. -/
def SipStackTransaction.writeKey {τ : Type} (serial : Nat) (write : KeyWrite)
    (transaction : SipStackTransaction τ) : SipStackTransaction τ :=
  if transaction.serial = serial then { transaction with key := write.apply transaction.key }
  else transaction

/-- The operations of the store, and what happens to its keys from outside. -/
inductive StoreOp (τ : Type) where
  | add (key : SipTxnKey) (txn : τ)
  | find (key : SipTxnKey)
  | remove (key : SipTxnKey) (option : Int)
  | fetch (key : SipTxnKey) (option : Int) (txn : τ)
  | release (key : SipTxnKey) (option : Int)
  | write (serial : Nat) (write : KeyWrite)
  deriving Repr

namespace SipStackState

variable {τ : Type} (charValue : Char → UInt32)

def writeKey (s : SipStackState τ) (serial : Nat) (write : KeyWrite) : SipStackState τ :=
  { s with
    txnAggregate := s.txnAggregate.map fun bucket =>
      (bucket.1, bucket.2.map (SipStackTransaction.writeKey serial write)) }

def step (s : SipStackState τ) : StoreOp τ → TxnResult τ × SipStackState τ
  | .add key txn =>
      let added := s.addTransaction charValue key txn
      (⟨added.1, .unset⟩, added.2)
  | .find key => (.ofPointer (s.findTransaction charValue key), s)
  | .remove key option =>
      let removed := s.removeTransaction charValue key option
      (.ofPointer removed.1, removed.2)
  | .fetch key option txn => s.fetchTransaction charValue key option txn
  | .release key option => s.releaseTransaction charValue key option
  | .write serial write => (⟨true, .unset⟩, s.writeKey serial write)

def run (s : SipStackState τ) : List (StoreOp τ) → List (TxnResult τ) × SipStackState τ
  | [] => ([], s)
  | op :: ops =>
      let first := s.step charValue op
      let rest := first.2.run ops
      (first.1 :: rest.1, rest.2)

end SipStackState

end ImsStack.SipCore
