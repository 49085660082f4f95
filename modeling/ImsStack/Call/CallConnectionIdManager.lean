import ImsStack.Call.MtcCall
import ImsStack.Library.BoundedInt
import ImsStack.Library.TransitionSystem
import Mathlib.Algebra.Group.Int.Defs
import Mathlib.Algebra.Group.Nat.Defs
import Mathlib.Data.List.Basic

/-!
`CallConnectionIdManager`: the connection identifier of each call, in a list that the
code keeps sorted.  `none` stands for an access out of the range of a list.
-/

namespace ImsStack.CallConnection

open ImsStack.Call
open ImsStack.Library.BoundedInt
open TransitionSystem

inductive IndividualCallState where
  | idle | host | joining | joined | invited
  deriving DecidableEq, Repr

structure CallKeyConnection where
  nKey : Nat
  nConnectionId : Nat
  deriving DecidableEq, Repr

/-- The loops that ask a controller for `GetCallStatusInConference`. -/
inductive StatusLoop where
  | isConferenceHost | isConferenceParticipant | clearConnectionIds
  deriving DecidableEq, Repr

/-- What the controllers answer during one event: it may change from one question to the
next, so it depends on the loop and on its index too. -/
abbrev StatusAnswers := StatusLoop → Nat → (controller nKey : Nat) → IndividualCallState

/-- The members of `CallConnectionIdManager`; a controller is known by its address. -/
structure Manager where
  connections : List CallKeyConnection
  controllers : List Nat
  deriving DecidableEq, Repr

/-- `static_cast<IMS_UINT32>`. -/
def uint32 (n : Nat) : Nat := n % 2 ^ 32

section Lists

variable {α : Type}

/-- `ImsVector::GetSize`. -/
def getSize (items : List α) : Nat := uint32 items.length

/-- What a loop `for (IMS_UINT32 i = 0; i < GetSize(); i++)` meets. -/
def visited (items : List α) : List α := items.take (getSize items)

/-- `ImsVector::InsertAt`. -/
def insertAt (items : List α) (element : α) (nIndex : Nat) : List α :=
  if getSize items ≤ nIndex then items ++ [element] else items.insertIdx nIndex element

/-- `ImsVector::RemoveAt`. -/
def removeAt (items : List α) (nIndex : Nat) : Option (List α) :=
  if nIndex = 0 ∧ getSize items = 1 then some []
  else if nIndex < items.length then some (items.eraseIdx nIndex) else none

/-- A loop that returns the index of an element as an `IMS_SINT32`, or -1. -/
def listIndex (found : α → Bool) (items : List α) : Int :=
  match (visited items).findIdx? found with
  | some i => wrap (i : Int)
  | none => -1

end Lists

def getIndex (connections : List CallKeyConnection) (nKey : Nat) : Int :=
  match (visited connections).find? (fun c => c.nKey == nKey) with
  | some c => wrap (c.nConnectionId : Int)
  | none => -1

def getCallKey (connections : List CallKeyConnection) (nConnectionId : Nat) : Nat :=
  match (visited connections).find? (fun c => c.nConnectionId == nConnectionId) with
  | some c => c.nKey
  | none => 0

def getListIndexByCallKey (connections : List CallKeyConnection) (nCallKey : Nat) : Int :=
  listIndex (fun c => c.nKey == nCallKey) connections

def getListIndexByConnectionId (connections : List CallKeyConnection)
    (nConnectionId : Nat) : Int :=
  listIndex (fun c => c.nConnectionId == nConnectionId) connections

/-- The loop of `GetNewIndex` from an index on. -/
def newIndexLoop (i : Nat) : List CallKeyConnection → Option Nat
  | [] => none
  | c :: rest =>
    if c.nConnectionId = uint32 (i + 1) then newIndexLoop (i + 1) rest
    else some (uint32 (i + 1))

def getNewIndex (connections : List CallKeyConnection) : Option Nat :=
  if connections.isEmpty then some 1
  else
    match newIndexLoop 0 (visited connections) with
    | some nId => some nId
    | none =>
      (connections[getSize connections - 1]?).map fun c => uint32 (c.nConnectionId + 1)

def addKeyConnectionId (connections : List CallKeyConnection) (nCallKey : Nat) :
    Option (List CallKeyConnection) :=
  if 0 ≤ getListIndexByCallKey connections nCallKey then some connections
  else
    match getNewIndex connections with
    | none => none
    | some nNewIndex =>
      if getSize connections < nNewIndex then some (connections ++ [⟨nCallKey, nNewIndex⟩])
      else some (insertAt connections ⟨nCallKey, nNewIndex⟩ (nNewIndex - 1))

def removeKeyConnectionId (connections : List CallKeyConnection) (nIndex : Int) :
    Option (List CallKeyConnection) :=
  if nIndex < 0 then some connections
  else
    match connections[nIndex.toNat]? with
    | none => none
    | some _ => removeAt connections nIndex.toNat

/-- The loop of `IsConferenceHost` from an index on. -/
def conferenceHostLoop (answers : StatusAnswers) (nCallKey i : Nat) : List Nat → Option Nat
  | [] => none
  | controller :: rest =>
    if answers .isConferenceHost i controller nCallKey = .host then some i
    else conferenceHostLoop answers nCallKey (i + 1) rest

/-- `IsConferenceHost`, with the index of the controller. -/
def isConferenceHost (answers : StatusAnswers) (controllers : List Nat) (nCallKey : Nat) :
    Option Nat :=
  conferenceHostLoop answers nCallKey 0 (visited controllers)

/-- The loop of `IsConferenceParticipant` from an index on. -/
def conferenceParticipantLoop (answers : StatusAnswers) (nCallKey i : Nat) : List Nat → Bool
  | [] => false
  | controller :: rest =>
    if answers .isConferenceParticipant i controller nCallKey ≠ .idle then true
    else conferenceParticipantLoop answers nCallKey (i + 1) rest

def isConferenceParticipant (answers : StatusAnswers) (controllers : List Nat)
    (nCallKey : Nat) : Bool :=
  conferenceParticipantLoop answers nCallKey 0 (visited controllers)

/-- The loop of `ClearConnectionIdsInConference` over the indices below the given one,
from the last to the first. -/
def clearLoop (answers : StatusAnswers) (controller : Nat) :
    Nat → List CallKeyConnection → Option (List CallKeyConnection)
  | 0, connections => some connections
  | i + 1, connections =>
    match connections[i]? with
    | none => none
    | some c =>
      if answers .clearConnectionIds i controller c.nKey = .idle then
        clearLoop answers controller i connections
      else (removeKeyConnectionId connections i).bind (clearLoop answers controller i)

def clearConnectionIdsInConference (answers : StatusAnswers) (m : Manager)
    (nControllerIndex : Nat) : Option (List CallKeyConnection) :=
  match m.controllers[nControllerIndex]? with
  | none => none
  | some controller =>
    clearLoop answers controller (wrap (getSize m.connections : Int)).toNat m.connections

/-- The loop of `OnTotalCallStateChanged` over the indices below the given one. -/
def removeAllLoop : Nat → List CallKeyConnection → Option (List CallKeyConnection)
  | 0, connections => some connections
  | i + 1, connections => (removeKeyConnectionId connections i).bind (removeAllLoop i)

/-- The loop of `OnConferenceCallStarted` for a conference that ends: the entry after a
removed one is passed over. -/
def removeController (controller : Nat) : List Nat → List Nat
  | [] => []
  | c :: rest =>
    if c ≠ controller then c :: removeController controller rest
    else
      match rest with
      | [] => []
      | next :: others => next :: removeController controller others

namespace Manager

/-- The manager with another list of connections. -/
def withConnections (m : Manager) (connections : Option (List CallKeyConnection)) :
    Option Manager :=
  connections.map fun connections => { m with connections := connections }

def onCallStateChanged (m : Manager) (answers : StatusAnswers) (nCallKey : Nat)
    (eState : CallStateName) : Option Manager :=
  if eState = .idle then some m
  else
    match isConferenceHost answers m.controllers nCallKey with
    | some nControllerIndexOfHost =>
      if eState = .terminating then
        m.withConnections (clearConnectionIdsInConference answers m nControllerIndexOfHost)
      else some m
    | none =>
      if eState = .terminating then
        if isConferenceParticipant answers m.controllers nCallKey then some m
        else
          m.withConnections
            (removeKeyConnectionId m.connections (getListIndexByCallKey m.connections nCallKey))
      else if eState = .outgoing ∨ eState = .incoming ∨ eState = .alerting then
        m.withConnections (addKeyConnectionId m.connections nCallKey)
      else some m

def onTotalCallStateChanged (m : Manager) (eState : CallStateName) : Option Manager :=
  if eState ≠ .idle then some m
  else
    (removeAllLoop (wrap (getSize m.connections : Int)).toNat m.connections).map
      fun _ => { connections := [], controllers := [] }

def onConferenceCallStarted (m : Manager) (controller : Nat) (bStarted : Bool) : Manager :=
  { m with
    controllers :=
      if bStarted then m.controllers ++ [controller]
      else removeController controller m.controllers }

def onConferenceParticipantDisconnected (m : Manager) (nConnectionId : Nat) :
    Option Manager :=
  m.withConnections
    (removeKeyConnectionId m.connections
      (getListIndexByConnectionId m.connections nConnectionId))

end Manager

/-- What the rest of the stack tells the manager. -/
inductive ConnectionEvent where
  | callStateChanged (answers : StatusAnswers) (nCallKey : Nat) (eState : CallStateName)
  | totalCallStateChanged (eState : CallStateName)
  | conferenceCallStarted (controller : Nat) (bStarted : Bool)
  | conferenceParticipantDisconnected (nConnectionId : Nat)

/-- One event. -/
def Manager.handle (m : Manager) : ConnectionEvent → Option Manager
  | .callStateChanged answers nCallKey eState => m.onCallStateChanged answers nCallKey eState
  | .totalCallStateChanged eState => m.onTotalCallStateChanged eState
  | .conferenceCallStarted controller bStarted =>
    some (m.onConferenceCallStarted controller bStarted)
  | .conferenceParticipantDisconnected nConnectionId =>
    m.onConferenceParticipantDisconnected nConnectionId

/-- The runs of a manager from its construction on. -/
def connectionSystem : System Manager ConnectionEvent where
  Init m := m = { connections := [], controllers := [] }
  Step m e m' := m.handle e = some m'

end ImsStack.CallConnection
