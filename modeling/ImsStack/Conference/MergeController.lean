import ImsStack.Conference.ConferenceController
import ImsStack.Library.TransitionSystem

/-!
A `MergeController` as a state machine.

The functions that take an operation from the queue call each other; `doNext` stands for the one
that performs the next operation, and the number of operations within one event is bounded.
-/

namespace ImsStack.Conference

open TransitionSystem Controller

/-- What a call reports: `CALL_STARTED` or `CALL_TERMINATED`. -/
inductive CallUpdate where
  | started | terminated
  deriving DecidableEq

inductive SendResult where
  | notStarted | failed | sent
  deriving DecidableEq

/-- What the rest of the stack answers during an event; an answer may differ from one state of the
controller to the next.  `startConference` and `terminate` tell what the call reports at once. -/
structure Environment where
  objCalls : List Nat
  distinct : objCalls.Nodup
  getCallKey : Nat → Nat
  nConfCallKey : Nat
  isConferenceCallEstablished : Controller → Bool
  startConference : Controller → Option CallUpdate
  terminate : Controller → Nat → Bool
  sendInvite : Controller → SendResult
  subscribe : Controller → Bool
  getResponseCode : Nat → Int
  updater : UpdaterEnvironment

namespace MergeController

section operations

variable (configuration : ConferenceConfiguration) (env : Environment)
  (doNext : Controller → Option Controller)

/-- `CompleteCurrentAndDoNextOperation`, and whether the operation was the current one. -/
def completeCurrentAndDoNextOperation (nOperationType : OperationType) (pConfUser : Option Nat)
    (c : Controller) : Option (Bool × Controller) :=
  match c.currentOperation with
  | none => some (false, c)
  | some operation =>
    match isSameOperation operation nOperationType pConfUser with
    | none => none
    | some false => some (false, c)
    | some true => (doNext c.removeActiveOperation).map (Prod.mk true)

def complete (nOperationType : OperationType) (pConfUser : Option Nat) (c : Controller) :
    Option Controller :=
  (completeCurrentAndDoNextOperation doNext nOperationType pConfUser c).map Prod.snd

/-- `Put` of an operation that stands alone. -/
def putStandAlone (nType : OperationType) (c : Controller) : Option Controller :=
  if c.objOperationQueue.isEmpty then
    doNext { c.put { nType } with bNeedToStartOperationSet := false }
  else some (c.put { nType })

def setAddingOperationSetCompleted (c : Controller) : Option Controller :=
  if c.bNeedToStartOperationSet then doNext { c with bNeedToStartOperationSet := false }
  else some c

def sendClosed (c : Controller) : Option Controller :=
  if c.hasPendingOperation then putStandAlone doNext .destroyController c
  else some { c with bListener := false }

/-! ### Recovery -/

/-- `RecoverOnReferring` where the conference call goes on. -/
def recoverUser (pConfUser : Nat) (c : Controller) : Option Controller :=
  match c.findUser pConfUser with
  | none => none
  | some member =>
    if member.status = .connected then complete doNext .referInvite (some pConfUser) c
    else if c.getConnectedParticipantSize false = 0 then some { c.clear with nState := .idle }
    else if c.objParticipants.length ≤ 2 then
      complete doNext .referInvite (some pConfUser) (c.setStatus pConfUser .disconnected)
    else some { c.clear with nState := .idle }

def recoverOnReferring (operation : ConferenceOperation) (c : Controller) : Option Controller :=
  if env.isConferenceCallEstablished c then
    match operation.objConfUsers with
    | [] => none
    | pConfUser :: _ => recoverUser doNext pConfUser c
  else some c.clear

def recover (c : Controller) : Option Controller :=
  match c.currentOperation with
  | none => some c
  | some operation =>
    match operation.nType with
    | .createConferenceCall => some (if env.isConferenceCallEstablished c then c else c.clear)
    | .terminate1To1Call | .referInvite => recoverOnReferring env doNext operation c
    | _ => some c

/-! ### Calls -/

def updateUserStateByCallTerminated (nCallKey : Nat) (c : Controller) : Option Controller :=
  let c := match participantOfCall env.getCallKey c.objParticipants nCallKey with
    | none => c
    | some member => (c.setStatus member.pConfUser .disconnected).notifyUsersInfo
  if c.getConnectedParticipantSize true = 0 then putStandAlone doNext .terminateConference c
  else some c

/-- `ConferenceController::OnIndividualCallTerminated` behind the timer. -/
def completeIndividualCall (nCallKey : Nat) (c : Controller) : Option Controller :=
  match c.currentOperation with
  | none => some c
  | some operation =>
    if operation.nType = .terminate1To1Call then
      if nCallKey = env.getCallKey operation.nConnectionId then
        complete doNext .terminate1To1Call none c
      else recover env doNext c
    else some c

def onIndividualCallTerminated (nCallKey : Nat) (c : Controller) : Option Controller :=
  (completeIndividualCall env doNext nCallKey
      (c.checkNStartFinalSipfragWaitTimer false true)).bind fun c =>
    if c.pSubscription.isNone && configuration.nReferTypeForInvite == .copyControl then
      updateUserStateByCallTerminated env doNext nCallKey c
    else some c

/-- What is left to do on an active subscription when the conference call has ended. -/
def unsubscribeLater (c : Controller) : Option Controller :=
  if c.pSubscription = some .active then putStandAlone doNext .unsubscribe { c with nNextDelay := 3000 }
  else some c

def onCallUpdated (nType : CallUpdate) (nCallKey : Nat) (c : Controller) : Option Controller :=
  if nCallKey ≠ env.nConfCallKey then
    match nType with
    | .started => some c
    | .terminated => onIndividualCallTerminated configuration env doNext nCallKey c
  else
    match nType with
    | .started => complete doNext .createConferenceCall none c
    | .terminated =>
      ((recover env doNext c).bind (unsubscribeLater doNext)).bind (sendClosed doNext)

/-- A call is terminated, and the operation that did it is completed. -/
def terminateCall (nCallKey : Nat) (nOperationType : OperationType) (c : Controller) :
    Option Controller :=
  (if env.terminate c nCallKey then onCallUpdated configuration env doNext .terminated nCallKey c
    else some c).bind (complete doNext nOperationType none)

def startConferenceCall (c : Controller) : Option Controller :=
  match env.startConference c with
  | none => some c
  | some nType => onCallUpdated configuration env doNext nType env.nConfCallKey c

/-! ### The subscription -/

def startSubscription (c : Controller) : Option Controller :=
  if env.subscribe c then some { c with pSubscription := some .subscribing }
  else recover env doNext c

def subscribeConference (c : Controller) : Option Controller :=
  match c.pSubscription with
  | some _ => some c
  | none => startSubscription env doNext { c with pSubscription := some .idle }

def stopSubscription (c : Controller) : Controller :=
  if c.pSubscription = some .subscribing ∨ c.pSubscription = some .active then
    { c with pSubscription := some .unsubscribing }
  else c

/-! ### The references -/

/-- A reference is created for users and sent. -/
def sendReference (objUsers : List Nat) (c : Controller) : Option Controller :=
  if objUsers.all fun pConfUser => c.users.contains pConfUser then
    match env.sendInvite c with
    | .sent => some (c.createReference .invite objUsers)
    | .failed => recover env doNext (c.createReference .invite objUsers)
    | .notStarted => recover env doNext (c.createReference .invalid objUsers)
  else none

def inviteParticipants (objUsers : List Nat) (c : Controller) : Option Controller :=
  match configuration.nReferTypeForInvite with
  | .copyControl => some (c.clearOngoingReferences env.getResponseCode)
  | .referSingle =>
    match objUsers with
    | [] => none
    | pTemp :: _ =>
      sendReference env doNext [pTemp]
        (c.clearOngoingReferences env.getResponseCode).stopFinalSipfragWaitTimer
  | .referMultiple =>
    sendReference env doNext objUsers (c.clearOngoingReferences env.getResponseCode)

def removeParticipants : List Nat → Controller → Option Controller
  | [], c => some c
  | pTemp :: objUsers, c =>
    if c.users.contains pTemp then removeParticipants objUsers (c.createReference .bye [pTemp])
    else none

/-! ### The next operation -/

/-- What the notifier does for the result of a command. -/
def notifyResult (c : Controller) : Controller :=
  match c.nState with
  | .expanding | .joining | .dropping => c.notifyUsersInfo
  | _ => c

def notifyCmdResult (c : Controller) : Option Controller :=
  (completeCurrentAndDoNextOperation doNext .notifyResultToUi none (notifyResult c)).map fun r =>
    if r.1 then { r.2 with nState := .idle } else r.2

def checkUserEntityConnected (pConfUser : Nat) (c : Controller) : Option Controller :=
  match c.findUser pConfUser with
  | none => none
  | some member =>
    if isConnectedStatus member.status then complete doNext .checkConnected none c else some c

def checkConnected (objUsers : List Nat) (c : Controller) : Option Controller :=
  if !configuration.isSubscriptionNotifyRequiredForRefer || c.pSubscription.isNone then
    match objUsers with
    | [] => none
    | pConfUser :: _ => checkUserEntityConnected doNext pConfUser c
  else some c

def performOperation (operation : ConferenceOperation) (c : Controller) : Option Controller :=
  match operation.nType with
  | .createConferenceCall => startConferenceCall configuration env doNext c
  | .subscribe => subscribeConference env doNext c
  | .unsubscribe => some (stopSubscription c)
  | .referInvite => inviteParticipants configuration env doNext operation.objConfUsers c
  | .referBye => removeParticipants operation.objConfUsers c
  | .checkConnected => checkConnected configuration doNext operation.objConfUsers c
  | .notifyResultToUi => notifyCmdResult doNext c
  | .terminate1To1Call =>
    terminateCall configuration env doNext (env.getCallKey operation.nConnectionId)
      .terminate1To1Call c
  | .terminateConference =>
    terminateCall configuration env doNext env.nConfCallKey .terminateConference c
  | .destroyController => sendClosed doNext c
  | .notifyResultToMtcCall => complete doNext .notifyResultToMtcCall none c

/-- `GetNextOperation`, and what is done with it. -/
def doNextStep (c : Controller) : Option Controller :=
  match c.currentOperation with
  | none => some c
  | some operation =>
    if operation.nDelayMillisec > 0 then some { c with bDelayedOperationTimer := true }
    else performOperation configuration env doNext operation c

end operations

/-- `DoNextOperation`, with at most as many nested operations. -/
def doNextOperation (configuration : ConferenceConfiguration) (env : Environment) :
    Nat → Controller → Option Controller
  | 0, c => some c
  | nOperations + 1, c =>
    doNextStep configuration env (doNextOperation configuration env nOperations) c

section commands

variable (configuration : ConferenceConfiguration) (env : Environment)
  (doNext : Controller → Option Controller)

/-! ### Commands -/

/-- The operations for one participant that is merged. -/
def mergeUserOperations (member : Member) : List ConferenceOperation :=
  [{ nType := .referInvite, objConfUsers := [member.pConfUser] },
    { nType := .terminate1To1Call, nConnectionId := member.connectionId }] ++
  if configuration.isSubscriptionNotifyRequiredForRefer then
    [{ nType := .checkConnected, objConfUsers := [member.pConfUser] }]
  else []

def mergeOperations (bCreated : Bool) (objMembers : List Member) : List ConferenceOperation :=
  let bSubFirstAndRefer := configuration.isSubscriptionFirst ||
    configuration.isSubscriptionNotifyRequiredForRefer
  let subscription : List ConferenceOperation :=
    if bCreated && configuration.bConferenceSubscriptionRequired then [{ nType := .subscribe }]
    else []
  (if bCreated then [{ nType := .createConferenceCall }] else []) ++
  (if bSubFirstAndRefer then subscription else []) ++
  objMembers.flatMap (mergeUserOperations configuration) ++
  [{ nType := .notifyResultToUi }] ++
  (if bSubFirstAndRefer then [] else subscription) ++
  [{ nType := .notifyResultToMtcCall }]

/-- `ProcessMergeWithoutRefer`; the operation has the users that were given, which the list has
copied. -/
def processMergeWithoutRefer (nUsers : Nat) (c : Controller) : Option Controller :=
  if c.nState = .created then
    setAddingOperationSetCompleted doNext
      ({ c with nState := .merging, nNextAddress := c.nNextAddress + nUsers }.putAll
        [{ nType := .createConferenceCall, objConfUsers := List.range' c.nNextAddress nUsers },
          { nType := .notifyResultToUi }])
  else some { c with nState := .merging }

/-- The controller of `ProcessMerge` before the first operation is performed. -/
def prepareMerge (objUsers : List ConfUser) (c : Controller) : Controller :=
  let added := c.addUserToParticipantList env.objCalls env.getCallKey objUsers true
  { added.1 with nState := .merging }.putAll
    (mergeOperations configuration (c.nState == ControllerState.created) (added.1.objParticipants.drop added.2))

def processMerge (objUsers : List ConfUser) (c : Controller) : Option Controller :=
  if !c.isReadyToPerformCmd then some c
  else if c.nState = .created ∧ objUsers.length < 2 then sendClosed doNext c
  else if configuration.nReferTypeForInvite = .copyControl then
    processMergeWithoutRefer doNext objUsers.length
      (c.addUserToParticipantList env.objCalls env.getCallKey objUsers true).1
  else setAddingOperationSetCompleted doNext (prepareMerge configuration env objUsers c)

def joinOperations (objMembers : List Member) : List ConferenceOperation :=
  (match configuration.nReferTypeForInvite with
    | .copyControl => []
    | .referSingle => objMembers.map fun member =>
        { nType := .referInvite, objConfUsers := [member.pConfUser] }
    | .referMultiple =>
        [{ nType := .referInvite, objConfUsers := objMembers.map Member.pConfUser }]) ++
  if configuration.bReferSubscriptionRequired then [] else [{ nType := .notifyResultToUi }]

/-- The controller of `ProcessJoin` before the first operation is performed. -/
def prepareJoin (objUsers : List ConfUser) (c : Controller) : Controller :=
  let added := c.addUserToParticipantList env.objCalls env.getCallKey objUsers false
  { added.1 with nState := .joining }.putAll
    (joinOperations configuration (added.1.objParticipants.drop added.2))

def processJoin (objUsers : List ConfUser) (c : Controller) : Option Controller :=
  if c.isReadyToPerformCmd then
    setAddingOperationSetCompleted doNext (prepareJoin configuration env objUsers c)
  else
    some (c.addUserToParticipantList env.objCalls env.getCallKey objUsers false).1.notifyUsersInfo

/-- `ProcessDrop` for the users with connection ids. -/
def processDrop (nConnectionIds : List Nat) (c : Controller) : Option Controller :=
  match nConnectionIds with
  | [] => none
  | nConnectionId :: _ =>
    match c.objParticipants.find? fun member => member.connectionId == nConnectionId with
    | none => some c.notifyUsersInfo
    | some member =>
      if c.isReadyToPerformCmd then
        setAddingOperationSetCompleted doNext
          ({ c with nState := .dropping }.putAll
            [{ nType := .referBye, objConfUsers := [member.pConfUser] },
              { nType := .notifyResultToUi }])
      else some c.notifyUsersInfo

def processSubscribeOnParticipant (c : Controller) : Option Controller :=
  if configuration.bSubscriptionForParticipantRequired then
    putStandAlone doNext .subscribe (c.put { nType := .createConferenceCall })
  else some c

/-! ### The subscription -/

/-- `OnSubscriptionUpdated` of a NOTIFY. -/
def onNotifyReceived (c : Controller) : Option Controller :=
  (if configuration.isSubscriptionNotifyRequiredForRefer then complete doNext .subscribe none c
    else some c).bind fun c =>
  if c.objParticipants.isEmpty then some c
  else
    (if c.getConnectedParticipantSize true = 0 then putStandAlone doNext .terminateConference c
      else some c).bind fun c => complete doNext .checkConnected none c.notifyUsersInfo

/-- `OnSubscriptionUpdated` of a failure. -/
def onSubscriptionFailed (c : Controller) : Option Controller :=
  (complete doNext .subscribe none c).map fun c => { c with pSubscription := none }

def subscriptionStarted (c : Controller) : Option Controller :=
  match c.pSubscription with
  | some .subscribing =>
    if configuration.isSubscriptionNotifyRequiredForRefer then
      some { c with pSubscription := some .active }
    else complete doNext .subscribe none { c with pSubscription := some .active }
  | some .unsubscribing => complete doNext .unsubscribe none { c with pSubscription := some .idle }
  | _ => some c

/-- `SubscriptionStartFailed`; the subscription may be tried again. -/
def subscriptionStartFailed (bTriedAgain : Bool) (c : Controller) : Option Controller :=
  match c.pSubscription with
  | some .unsubscribing => complete doNext .unsubscribe none c
  | some _ => if bTriedAgain then some c else onSubscriptionFailed doNext c
  | none => some c

def subscriptionTerminated (c : Controller) : Option Controller :=
  if c.pSubscription.isSome then
    (complete doNext .unsubscribe none { c with pSubscription := some .idle }).bind
      (putStandAlone doNext .terminateConference)
  else some c

/-- `UpdateConferenceInfo` of a document, and what follows from its result. -/
def subscriptionNotify (document : Option Platform.DomNode) (c : Controller) : Option Controller :=
  match ConferenceInfoUpdater.update env.updater c.participantList document with
  | none => none
  | some updated =>
    let c := c.setParticipantList updated.list
    match updated.eResult with
    | .updated | .nothingUpdated => onNotifyReceived configuration doNext c
    | .invalidVersion =>
      if env.subscribe c then some { c with pSubscription := some .subscribing }
      else onSubscriptionFailed doNext c
    | .malformedXml | .infoDeleted => some c

/-! ### The references -/

def updateUserStatusByReferResult (pUser : Option Member) (nType : ReferenceType)
    (nStatusCode : Int) (c : Controller) : Controller :=
  match pUser with
  | none => c
  | some member =>
    if nStatusCode = 100 then
      if nType = .invite then c.setStatus member.pConfUser .dialingOut else c
    else if nStatusCode = 200 then
      match nType with
      | .invite => c.setStatus member.pConfUser .connected
      | .bye => c.setStatus member.pConfUser .disconnected
      | .invalid => c
    else c

def onReferenceStarted (reference : ConferenceReference) (c : Controller) : Option Controller :=
  let pTempUser := c.getConfUser reference.address
  match reference.nType with
  | .bye =>
    complete doNext .referBye (pTempUser.map Member.pConfUser)
      (updateUserStatusByReferResult pTempUser .bye 200 c)
  | .invite =>
    if c.nState = .joining then
      complete doNext .referInvite
        (if configuration.bReferSubscriptionRequired then pTempUser.map Member.pConfUser else none) c
    else some c
  | .invalid => some c

/-- The participant whose reference was refused is removed. -/
def removeRefused (piConfRef : Nat) (c : Controller) : Controller :=
  match c.getConfUser piConfRef with
  | none => c
  | some member => c.removeUser member.pConfUser

def onReferenceStartFailed (reference : ConferenceReference) (c : Controller) : Option Controller :=
  let c := c.stopFinalSipfragWaitTimer
  if reference.nType = .bye then
    some ({ c.notifyUsersInfo.clear with nState := .idle }.removeReference reference.address)
  else
    (recover env doNext c).map fun c =>
      (removeRefused reference.address c).removeReference reference.address

/-- `OnReferenceUpdated` of an INVITE. -/
def updateInvite (pTempUser : Option Member) (nSipFragCode : Int) (c : Controller) :
    Option Controller :=
  if 200 ≤ nSipFragCode ∧ nSipFragCode < 300 then
    complete doNext .referInvite (pTempUser.map Member.pConfUser) c.stopFinalSipfragWaitTimer
  else if isFinalFailure nSipFragCode then recover env doNext c.stopFinalSipfragWaitTimer
  else if 100 ≤ nSipFragCode ∧ nSipFragCode < 200 then
    some (c.checkNStartFinalSipfragWaitTimer true false)
  else some c

def onReferenceUpdated (reference : ConferenceReference) (nSipFragCode : Int) (bTerminated : Bool)
    (c : Controller) : Option Controller :=
  let pTempUser := c.getConfUser reference.address
  let c := updateUserStatusByReferResult pTempUser reference.nType nSipFragCode c
  (if reference.nType = .invite then updateInvite env doNext pTempUser nSipFragCode c
    else complete doNext .referBye (pTempUser.map Member.pConfUser) c).map fun c =>
      if bTerminated then c.removeReference reference.address else c

/-- The first operation is due. -/
def delayedOperationTimerExpired (c : Controller) : Option Controller :=
  match c.objOperationQueue with
  | [] => none
  | operation :: operations =>
    doNext { c with
      bDelayedOperationTimer := false
      objOperationQueue := { operation with nDelayMillisec := 0 } :: operations }

end commands

/-! ### Events -/

/-- A reference is told by its address. -/
inductive ConferenceInput where
  | merge (objUsers : List ConfUser)
  | add (objUsers : List ConfUser)
  | remove (nConnectionIds : List Nat)
  | joined
  | callUpdated (nType : CallUpdate) (nCallKey : Nat)
  | subscriptionStarted
  | subscriptionStartFailed (bTriedAgain : Bool)
  | subscriptionTerminated
  | subscriptionNotify (document : Option Platform.DomNode)
  | referenceStarted (piConfRef : Nat)
  | referenceStartFailed (piConfRef : Nat)
  | referenceUpdated (piConfRef : Nat) (nSipFragCode : Int) (bTerminated : Bool)
  | finalSipfragWaitTimerExpired
  | delayedOperationTimerExpired

structure ConferenceEvent where
  env : Environment
  nOperations : Nat
  input : ConferenceInput

variable (configuration : ConferenceConfiguration)

/-- An event of a reference that is open. -/
def handleReference (piConfRef : Nat)
    (handle : ConferenceReference → Controller → Option Controller) (c : Controller) :
    Option Controller :=
  match c.objIConfReferences.find? fun reference => reference.address == piConfRef with
  | none => none
  | some reference => handle reference c

def handleEvent (e : ConferenceEvent) (c : Controller) : Option Controller :=
  let doNext := doNextOperation configuration e.env e.nOperations
  match e.input with
  | .merge objUsers => processMerge configuration e.env doNext objUsers c
  | .add objUsers => processJoin configuration e.env doNext objUsers c
  | .remove nConnectionIds => processDrop doNext nConnectionIds c
  | .joined => processSubscribeOnParticipant configuration doNext c
  | .callUpdated nType nCallKey => onCallUpdated configuration e.env doNext nType nCallKey c
  | .subscriptionStarted => subscriptionStarted configuration doNext c
  | .subscriptionStartFailed bTriedAgain => subscriptionStartFailed doNext bTriedAgain c
  | .subscriptionTerminated => subscriptionTerminated doNext c
  | .subscriptionNotify document => subscriptionNotify configuration e.env doNext document c
  | .referenceStarted piConfRef =>
    handleReference piConfRef (onReferenceStarted configuration doNext) c
  | .referenceStartFailed piConfRef =>
    handleReference piConfRef (onReferenceStartFailed e.env doNext) c
  | .referenceUpdated piConfRef nSipFragCode bTerminated =>
    handleReference piConfRef
      (fun reference => onReferenceUpdated e.env doNext reference nSipFragCode bTerminated) c
  | .finalSipfragWaitTimerExpired =>
    if c.bFinalSipfragWaitTimer then
      recover e.env doNext { c with bFinalSipfragWaitTimer := false }
    else none
  | .delayedOperationTimerExpired =>
    if c.bDelayedOperationTimer then delayedOperationTimerExpired doNext c else none

/-- A `MergeController` from its construction on. -/
def system : System Controller ConferenceEvent where
  Init c := ∃ strLocalUri, c = { strLocalUri }
  Step c e c' := handleEvent configuration e c = some c'

end MergeController

end ImsStack.Conference
