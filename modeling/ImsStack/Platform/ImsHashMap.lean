import ImsStack.Library.ChainedBuckets
import Mathlib.Data.Finmap

/-!
`ImsHashMap`: a table of chained buckets that is made with the first entry, and its iterator; and
the finite map that it stands for.
-/

namespace ImsStack.Platform

/-- `void*`. -/
abbrev Pointer := BitVec 64

def Pointer.null : Pointer := 0#64

/-- `ImsHashMap::Element`; the next element is the one behind it in its chain. -/
structure Element where
  m_pvKey : Pointer
  m_pvValue : Pointer
  deriving DecidableEq, Repr

/-- An element is named by its key, which no other one has. -/
abbrev ImsIterator := Option Pointer

structure ImsHashMap where
  m_nHashTableSize : Nat
  m_ppHashTable : Option (List (List Element))
  m_nCount : BitVec 32
  deriving DecidableEq, Repr

namespace ImsHashMap

def defaultSize : Nat := 5

def new (nHashTableSize : Nat) : ImsHashMap := ⟨nHashTableSize, none, 0#32⟩

def initHashTable (m : ImsHashMap) (nHashTableSize : Nat) : ImsHashMap :=
  let size := if nHashTableSize = 0 then defaultSize else nHashTableSize
  { m with m_nHashTableSize := size, m_ppHashTable := some (List.replicate size []) }

def getHashKey (pvKey : Pointer) : Nat := pvKey.toNat >>> 2

/-- `nHashKey % m_nHashTableSize`, which is undefined for a size of zero. -/
def bucketOf? (m : ImsHashMap) (pvKey : Pointer) : Option Nat :=
  if m.m_nHashTableSize = 0 then none else some (getHashKey pvKey % m.m_nHashTableSize)

/-- The search of a chain for a key. -/
def findInChain (pvKey : Pointer) (chain : List Element) : Option Element :=
  chain.find? fun e => e.m_pvKey = pvKey

/-- `GetElementAt`, behind the bucket it also gives. -/
def getElementAt (m : ImsHashMap) (pvKey : Pointer) (nBucket : Nat) : Option Element :=
  match m.m_ppHashTable with
  | none => none
  | some table => findInChain pvKey (table.getD nBucket [])

/-- The value of the element with a key is replaced. -/
def replaceValue (pvKey pvNewValue : Pointer) : List Element → List Element
  | [] => []
  | e :: chain =>
    if e.m_pvKey = pvKey then { e with m_pvValue := pvNewValue } :: chain
    else e :: replaceValue pvKey pvNewValue chain

def modifyBucket (m : ImsHashMap) (nBucket : Nat) (f : List Element → List Element) :
    ImsHashMap :=
  { m with m_ppHashTable := m.m_ppHashTable.map fun table => table.modify nBucket f }

def setAt (m : ImsHashMap) (pvKey pvNewValue : Pointer) : Option ImsHashMap :=
  match m.bucketOf? pvKey with
  | none => none
  | some nBucket =>
    match m.getElementAt pvKey nBucket with
    | some _ => some (m.modifyBucket nBucket (replaceValue pvKey pvNewValue))
    | none =>
      let m := if m.m_ppHashTable.isNone then m.initHashTable m.m_nHashTableSize else m
      some { m.modifyBucket nBucket (⟨pvKey, pvNewValue⟩ :: ·) with m_nCount := m.m_nCount + 1 }

/-- `Lookup`, with the key and the value of the element it finds. -/
def lookup (m : ImsHashMap) (pvKey : Pointer) : Option (Option Element) :=
  (m.bucketOf? pvKey).map (m.getElementAt pvKey)

def getValueAt (m : ImsHashMap) (pvKey : Pointer) : Option Pointer :=
  (m.lookup pvKey).map fun found => (found.map Element.m_pvValue).getD .null

def removeKey (m : ImsHashMap) (pvKey : Pointer) : Option (Bool × ImsHashMap) :=
  if m.m_ppHashTable.isNone then some (false, m)
  else
    match m.bucketOf? pvKey with
    | none => none
    | some nBucket =>
      match m.getElementAt pvKey nBucket with
      | none => some (false, m)
      | some _ =>
        some (true, { m.modifyBucket nBucket (List.eraseP fun e => e.m_pvKey = pvKey) with
          m_nCount := m.m_nCount - 1 })

/-- The first element of the first chain that is not empty. -/
def firstElement (chains : List (List Element)) : Option Element := chains.findSome? List.head?

/-- `GetStartPosition`; without a table nothing can be read where the count is not zero. -/
def getStartPosition (m : ImsHashMap) : Option ImsIterator :=
  if m.m_nCount = 0#32 then some none
  else m.m_ppHashTable.map fun table => (firstElement table).map Element.m_pvKey

/-- The chain from the element with a key on. -/
def chainFrom (pvKey : Pointer) (chain : List Element) : Option (List Element) :=
  match chain.dropWhile fun e => e.m_pvKey ≠ pvKey with
  | [] => none
  | e :: rest => some (e :: rest)

/-- The element that an iterator points to and those behind it, as long as it is there. -/
def elementsAt (m : ImsHashMap) (iterator : Pointer) : Option (List Element) :=
  match m.m_ppHashTable with
  | none => none
  | some table => table.findSome? (chainFrom iterator)

/-- `GetNext`, with the element whose key and value it gives. -/
def getNext (m : ImsHashMap) (iterator : Pointer) : Option (Element × ImsIterator) :=
  match m.elementsAt iterator with
  | some (e :: next :: _) => some (e, some next.m_pvKey)
  | some [e] =>
    (m.bucketOf? e.m_pvKey).map fun nBucket =>
      (e, (firstElement ((m.m_ppHashTable.getD []).drop (nBucket + 1))).map Element.m_pvKey)
  | some [] => none
  | none => none

/-- An entry that has just been returned is removed or left. -/
def removeIf (m : ImsHashMap) (bRemove : Bool) (pvKey : Pointer) : Option ImsHashMap :=
  if bRemove then (m.removeKey pvKey).map Prod.snd else some m

/-- The loop over an iterator; `remove` decides from the entries returned so far whether the last
one is removed. -/
def iterate (remove : List Element → Bool) :
    Nat → ImsHashMap → ImsIterator → List Element → Option (List Element × ImsHashMap)
  | _, m, none, visited => some (visited, m)
  | 0, _, some _, _ => none
  | fuel + 1, m, some iterator, visited =>
    (m.getNext iterator).bind fun next =>
      (m.removeIf (remove (visited ++ [next.1])) next.1.m_pvKey).bind fun m =>
        iterate remove fuel m next.2 (visited ++ [next.1])

/-- A loop from the start position on. -/
def visitAll (m : ImsHashMap) (remove : List Element → Bool) (fuel : Nat) :
    Option (List Element × ImsHashMap) :=
  m.getStartPosition.bind fun iterator => iterate remove fuel m iterator []

/-- What the map holds, bucket by bucket. -/
def entries (m : ImsHashMap) : List Element := (m.m_ppHashTable.getD []).flatten

/-- `RemoveAll`: every element that the loop returns is deleted, and then the table. -/
def removeAll (m : ImsHashMap) : Option ImsHashMap :=
  if m.m_ppHashTable.isNone then some { m with m_nCount := 0#32 }
  else
    (m.visitAll (fun _ => false) m.entries.length).map fun _ =>
      { m with m_ppHashTable := none, m_nCount := 0#32 }

end ImsHashMap

/-! ### Runs of operations -/

inductive MapOperation where
  | setAt (pvKey pvNewValue : Pointer)
  | removeKey (pvKey : Pointer)
  | removeAll
  | lookup (pvKey : Pointer)
  | getValueAt (pvKey : Pointer)
  deriving DecidableEq, Repr

/-- What an operation gives back. -/
inductive MapAnswer where
  | done
  | removed (bResult : Bool)
  | found (element : Option Element)
  | value (pvValue : Pointer)
  deriving DecidableEq, Repr

def ImsHashMap.run (m : ImsHashMap) : MapOperation → Option (MapAnswer × ImsHashMap)
  | .setAt pvKey pvNewValue => (m.setAt pvKey pvNewValue).map fun m => (.done, m)
  | .removeKey pvKey => (m.removeKey pvKey).map fun removed => (.removed removed.1, removed.2)
  | .removeAll => m.removeAll.map fun m => (.done, m)
  | .lookup pvKey => (m.lookup pvKey).map fun found => (.found found, m)
  | .getValueAt pvKey => (m.getValueAt pvKey).map fun value => (.value value, m)

/-- A finite map from keys to values. -/
abbrev FiniteMap := Finmap fun _ : Pointer => Pointer

def FiniteMap.run (f : FiniteMap) : MapOperation → MapAnswer × FiniteMap
  | .setAt pvKey pvNewValue => (.done, f.insert pvKey pvNewValue)
  | .removeKey pvKey => (.removed (f.lookup pvKey).isSome, f.erase pvKey)
  | .removeAll => (.done, ∅)
  | .lookup pvKey => (.found ((f.lookup pvKey).map fun value => ⟨pvKey, value⟩), f)
  | .getValueAt pvKey => (.value ((f.lookup pvKey).getD .null), f)

end ImsStack.Platform
