import ImsStack.Conference.ConferenceInfoUpdater

/-!
The state of a `ConferenceController`: the participants, the queue of operations and the references.

A pointer to a `ConfUser` or to a `ConferenceReference` is its address; addresses are given in the
order of the allocations.  A function returns none where the source would read a user that is freed,
or an element that a list does not have.
-/

namespace ImsStack.Conference

inductive ReferTypeForInvite where
  | copyControl | referSingle | referMultiple
  deriving DecidableEq

inductive SipFlowOrder where
  | subscribeAndRefer | referAndSubscribe | subscribeAndNotifyRefer
  deriving DecidableEq

structure ConferenceConfiguration where
  nReferTypeForInvite : ReferTypeForInvite
  nSipFlowOrder : SipFlowOrder
  bConferenceSubscriptionRequired : Bool
  bReferSubscriptionRequired : Bool
  bSubscriptionForParticipantRequired : Bool

namespace ConferenceConfiguration

variable (configuration : ConferenceConfiguration)

def isSubscriptionFirst : Bool := configuration.nSipFlowOrder == .subscribeAndRefer

def isSubscriptionNotifyRequiredForRefer : Bool :=
  configuration.nSipFlowOrder == .subscribeAndNotifyRefer

end ConferenceConfiguration

/-- The values of `CONTROL_OPERATION_CREATE_CONFERENCE_CALL` and its like. -/
inductive OperationType where
  | createConferenceCall | subscribe | unsubscribe | referInvite | referBye | checkConnected
  | notifyResultToUi | terminate1To1Call | terminateConference | destroyController
  | notifyResultToMtcCall
  deriving DecidableEq

structure ConferenceOperation where
  nType : OperationType
  nDelayMillisec : Nat := 0
  objConfUsers : List Nat := []
  nConnectionId : Nat := 0

inductive ReferenceType where
  | invalid | invite | bye
  deriving DecidableEq

/-- A `ConferenceReference`, with the one user or the users that it is for. -/
structure ConferenceReference where
  address : Nat
  nType : ReferenceType
  objConfUsers : List Nat

inductive SubscriptionState where
  | idle | subscribing | active | unsubscribing
  deriving DecidableEq

/-- The values of `STATE_CREATED` and its like. -/
inductive ControllerState where
  | created | groupCalling | expanding | merging | joining | dropping | idle
  deriving DecidableEq

/-- A participant of the list with the addresses that it has; the reference may be null. -/
structure Member where
  pConfUser : Nat
  participant : ConferenceParticipant
  pIReference : Option Nat := none

namespace Member

def connectionId (member : Member) : Nat := member.participant.objConfUser.nConnectionId

def status (member : Member) : ConfStatus := member.participant.objConfUser.eStatus

end Member

namespace ConferenceParticipant

def setStatus (p : ConferenceParticipant) (eStatus : ConfStatus) : ConferenceParticipant :=
  ⟨{ p.objConfUser with eStatus := eStatus }, p.strReferInviteUri, p.bInfoUpdated,
    p.bMatchingCompleted, p.bDisconnectedExplicitly, p.told⟩

end ConferenceParticipant

/-- Why a user has left the list. -/
inductive LeaveReason where
  | disconnected | referRefused | reordered
  deriving DecidableEq

/-- `objLeft` is the history of the users that have left the list; the source does not keep it. -/
structure Controller where
  strLocalUri : Platform.AString.Chars
  nVersion : Int := -1
  nMaxUserCount : Int := 0
  objParticipants : List Member := []
  objOperationQueue : List ConferenceOperation := []
  nNextDelay : Nat := 0
  bDelayedOperationTimer : Bool := false
  bNeedToStartOperationSet : Bool := false
  pSubscription : Option SubscriptionState := none
  objIConfReferences : List ConferenceReference := []
  bSipfrag100Received : Bool := false
  b1To1Terminated : Bool := false
  bFinalSipfragWaitTimer : Bool := false
  nState : ControllerState := .created
  bListener : Bool := true
  nNextAddress : Nat := 0
  objLeft : List (Member × LeaveReason) := []

namespace Controller

variable (c : Controller)

/-- The addresses of the users in the list. -/
def users : List Nat := c.objParticipants.map Member.pConfUser

/-! ### The participants -/

/-- `AddUser`, which copies the user. -/
def addUser (objConfUser : ConfUser) : Controller :=
  { c with
    objParticipants := c.objParticipants ++
      [{ pConfUser := c.nNextAddress, participant := .ofConfUser objConfUser }]
    nNextAddress := c.nNextAddress + 1 }

def addUsers (objConfUsers : List ConfUser) : Controller := objConfUsers.foldl addUser c

/-- The members that do not stay leave the list. -/
def keepMembers (stays : Member → Bool) (reason : LeaveReason) : Controller :=
  { c with
    objParticipants := c.objParticipants.filter stays
    objLeft := c.objLeft ++ (c.objParticipants.filter fun member => !stays member).map
      fun member => (member, reason) }

/-- `RemoveUser` of a refused reference. -/
def removeUser (pConfUser : Nat) : Controller :=
  c.keepMembers (fun member => member.pConfUser != pConfUser) .referRefused

def findUser (pConfUser : Nat) : Option Member :=
  c.objParticipants.find? fun member => member.pConfUser == pConfUser

/-- `GetConfUser` of a reference. -/
def getConfUser (piConfReference : Nat) : Option Member :=
  c.objParticipants.find? fun member => member.pIReference == some piConfReference

def setStatus (pConfUser : Nat) (eStatus : ConfStatus) : Controller :=
  { c with
    objParticipants := c.objParticipants.map fun member =>
      if member.pConfUser = pConfUser then
        { member with participant := member.participant.setStatus eStatus }
      else member }

def isConnectedStatus (eStatus : ConfStatus) : Bool := eStatus == .connected || eStatus == .onHold

def isConnectingStatus (eStatus : ConfStatus) : Bool :=
  [ConfStatus.idle, .pending, .alerting, .dialingIn, .dialingOut].contains eStatus

def getConnectedParticipantSize (bIncludingConnecting : Bool) : Nat :=
  c.objParticipants.countP fun member =>
    isConnectedStatus member.status || bIncludingConnecting && isConnectingStatus member.status

def setReference (piReference : Nat) (objConfUsers : List Nat) : Controller :=
  { c with
    objParticipants := c.objParticipants.map fun member =>
      if objConfUsers.contains member.pConfUser then
        { member with pIReference := some piReference }
      else member }

def resetReference (piReference : Nat) : Controller :=
  { c with
    objParticipants := c.objParticipants.map fun member =>
      if member.pIReference = some piReference then { member with pIReference := none }
      else member }

/-- The first participant whose call has a key. -/
def participantOfCall (getCallKey : Nat → Nat) (members : List Member) (nCallKey : Nat) :
    Option Member :=
  members.find? fun member => getCallKey member.connectionId == nCallKey

def reOrder (objCalls : List Nat) (getCallKey : Nat → Nat) : Controller :=
  let objTemp := objCalls.filterMap (participantOfCall getCallKey c.objParticipants)
  { c with
    objParticipants := objTemp
    objLeft := c.objLeft ++ (c.objParticipants.filter fun member =>
      !(objTemp.map Member.pConfUser).contains member.pConfUser).map
        fun member => (member, .reordered) }

/-- `AddUserToParticipantList`: the controller and the start index. -/
def addUserToParticipantList (objCalls : List Nat) (getCallKey : Nat → Nat)
    (objConfUsers : List ConfUser) (bReOrder : Bool) : Controller × Nat :=
  let nStartIndex := c.objParticipants.length
  if bReOrder && decide (objConfUsers.length > 1) then
    ((c.addUsers objConfUsers).reOrder objCalls getCallKey, nStartIndex)
  else (c.addUsers objConfUsers, nStartIndex)

/-- The statuses of the users that `CheckDisconnectedConfUsersInfo` removes. -/
def isDisconnectedStatus : ConfStatus → Bool
  | .idle | .progressing | .connected | .onHold | .mutedViaFocus | .pending | .alerting
  | .dialingIn | .dialingOut => false
  | _ => true

/-- `NotifyUsersInfo`, which removes those that are disconnected. -/
def notifyUsersInfo : Controller :=
  c.keepMembers (fun member => !isDisconnectedStatus member.status) .disconnected

/-- The list for `ConferenceInfoUpdater`. -/
def participantList : ConferenceParticipantList where
  strLocalUri := c.strLocalUri
  nVersion := c.nVersion
  nMaxUserCount := c.nMaxUserCount
  objParticipants := c.objParticipants.map Member.participant

/-- The members with the participants that a document has left; those behind them are new. -/
def updateMembers (nNextAddress : Nat) : List Member → List ConferenceParticipant → List Member
  | [], participants =>
    participants.mapIdx fun i participant => { pConfUser := nNextAddress + i, participant }
  | _, [] => []
  | member :: members, participant :: participants =>
    { member with participant } :: updateMembers nNextAddress members participants

def setParticipantList (list : ConferenceParticipantList) : Controller :=
  { c with
    nVersion := list.nVersion
    nMaxUserCount := list.nMaxUserCount
    objParticipants := updateMembers c.nNextAddress c.objParticipants list.objParticipants
    nNextAddress := c.nNextAddress + (list.objParticipants.length - c.objParticipants.length) }

/-! ### The queue -/

/-- `Put` of an operation that does not stand alone. -/
def put (operation : ConferenceOperation) : Controller :=
  { c with
    objOperationQueue :=
      c.objOperationQueue ++ [{ operation with nDelayMillisec := c.nNextDelay }]
    nNextDelay := 0
    bNeedToStartOperationSet :=
      if c.objOperationQueue.isEmpty then true else c.bNeedToStartOperationSet }

def putAll (operations : List ConferenceOperation) : Controller := operations.foldl put c

def currentOperation : Option ConferenceOperation := c.objOperationQueue.head?

def hasPendingOperation : Bool :=
  c.objOperationQueue.any fun operation => decide (operation.nDelayMillisec > 0)

def clear : Controller := { c with objOperationQueue := [], bDelayedOperationTimer := false }

def isSameOperation (operation : ConferenceOperation) (nOperationType : OperationType)
    (pConfUser : Option Nat) : Option Bool :=
  if operation.nType = nOperationType then
    match pConfUser, operation.objConfUsers with
    | none, _ => some true
    | some _, [] => none
    | some pConfUser, user :: _ => some (user == pConfUser)
  else some false

/-- `RemoveActiveOperation` and `StopTimer`. -/
def removeActiveOperation : Controller :=
  { c with
    objOperationQueue := c.objOperationQueue.tail
    bDelayedOperationTimer := false }

/-! ### The references -/

/-- `CreateReference`, and what it is sent as. -/
def createReference (nType : ReferenceType) (objConfUsers : List Nat) : Controller :=
  { c.setReference c.nNextAddress objConfUsers with
    objIConfReferences := c.objIConfReferences ++
      [{ address := c.nNextAddress, nType, objConfUsers }]
    nNextAddress := c.nNextAddress + 1 }

def removeReference (piReference : Nat) : Controller :=
  if c.objIConfReferences.any fun reference => reference.address == piReference then
    { c.resetReference piReference with
      objIConfReferences := c.objIConfReferences.eraseP fun reference =>
        reference.address == piReference }
  else c

def isFinalFailure (nStatusCode : Int) : Bool := decide (300 ≤ nStatusCode ∧ nStatusCode < 700)

def clearOngoingReferences (getResponseCode : Nat → Int) : Controller :=
  (c.objIConfReferences.filter fun reference => reference.nType != .invite &&
      !isFinalFailure (getResponseCode reference.address)).foldl
    (fun c reference => c.removeReference reference.address) c

/-! ### The timer for the final sipfrag -/

def stopFinalSipfragWaitTimer : Controller :=
  { c with bSipfrag100Received := false, b1To1Terminated := false, bFinalSipfragWaitTimer := false }

/-- `CheckNStartFinalSipfragWaitTimer` of a `MergeController`, which waits for the end of a call. -/
def checkNStartFinalSipfragWaitTimer (bSipfrag100Received b1To1Terminated : Bool) : Controller :=
  let c := { c with
    bSipfrag100Received := c.bSipfrag100Received || bSipfrag100Received
    b1To1Terminated := c.b1To1Terminated || b1To1Terminated }
  if c.b1To1Terminated then { c.stopFinalSipfragWaitTimer with bFinalSipfragWaitTimer := true }
  else c

def isReadyToPerformCmd : Bool := c.nState == .created || c.nState == .idle

end Controller

end ImsStack.Conference
