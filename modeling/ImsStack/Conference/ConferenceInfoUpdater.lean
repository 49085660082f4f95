import ImsStack.Conference.ConferenceInfo

/-!
The participants of a conference and how `ConferenceInfoUpdater` updates them from a document:
three policies, one after the other, find a participant for each user of the document that none
was found for.
-/

namespace ImsStack.Conference

open Platform
open Platform.AString (Chars)

structure ConfUser where
  nConnectionId : Nat
  strTarget : Chars
  strUserEntity : Chars
  strEpEntity : Chars
  eStatus : ConfStatus
  deriving DecidableEq, Repr

def ConfUser.new : ConfUser := ⟨0, [], [], [], .idle⟩

/-- Only a participant that a document told of is disconnected explicitly. -/
structure ConferenceParticipant where
  objConfUser : ConfUser
  strReferInviteUri : Chars
  bInfoUpdated : Bool
  bMatchingCompleted : Bool
  bDisconnectedExplicitly : Bool
  told : bDisconnectedExplicitly = true → bInfoUpdated = true
  deriving DecidableEq

structure ConferenceParticipantList where
  strLocalUri : Chars
  nVersion : Int
  nMaxUserCount : Int
  objParticipants : List ConferenceParticipant
  deriving DecidableEq

/-- `IMessageUtils` and the configuration. -/
structure UpdaterEnvironment where
  getUserPart : Chars → Chars
  bPackageVersionCheckRequired : Bool
  bSubscriptionForParticipantRequired : Bool

/-- A user of a document and where it is. -/
structure UserElement where
  nAddress : Nat
  user : User
  deriving DecidableEq, Repr

def ConferenceInfo.elements (info : ConferenceInfo) : List UserElement :=
  info.objUsers.mapIdx UserElement.mk

inductive MatchingPolicy where
  | userEntity | referToUri | order
  deriving DecidableEq, Repr

/-- A user of the document that a participant was updated by. -/
structure UserMatch where
  ePolicy : MatchingPolicy
  element : UserElement
  nParticipant : Nat
  deriving DecidableEq, Repr

namespace ConferenceParticipant

def ofConfUser (objConfUser : ConfUser) : ConferenceParticipant :=
  ⟨objConfUser, [], false, false, false, fun h => h⟩

def startMatching (p : ConferenceParticipant) : ConferenceParticipant :=
  ⟨p.objConfUser, p.strReferInviteUri, p.bInfoUpdated, false, p.bDisconnectedExplicitly, p.told⟩

def update (env : UpdaterEnvironment) (p : ConferenceParticipant) (user : User)
    (endPoint : EndPoint) : ConferenceParticipant where
  objConfUser :=
    { p.objConfUser with
      strTarget := env.getUserPart user.strEntity
      strUserEntity := user.strEntity
      strEpEntity := endPoint.strEntity
      eStatus :=
        if endPoint.nStatus = .disconnecting then .disconnected else endPoint.nStatus }
  strReferInviteUri := p.strReferInviteUri
  bInfoUpdated := true
  bMatchingCompleted := true
  bDisconnectedExplicitly :=
    p.bDisconnectedExplicitly || decide (endPoint.nStatus = .disconnected)
  told := fun _ => rfl

/-- `SetDeletedParticipantToDisconnected` of one participant. -/
def setDeletedToDisconnected (p : ConferenceParticipant) : ConferenceParticipant :=
  if h : p.bInfoUpdated = true ∧ p.bMatchingCompleted = false then
    ⟨{ p.objConfUser with eStatus := .disconnected }, p.strReferInviteUri, p.bInfoUpdated, true,
      true, fun _ => h.1⟩
  else p

end ConferenceParticipant

namespace ConferenceInfoUpdater

variable (env : UpdaterEnvironment)

/-! ### Addresses and statuses -/

def isConnectedStatusCategory : ConfStatus → Bool
  | .idle => true
  | .progressing => true
  | .connected => true
  | .onHold => true
  | .mutedViaFocus => true
  | .pending => true
  | .alerting => true
  | .dialingIn => true
  | .dialingOut => true
  | _ => false

/-- `AString::Contains` of a literal. -/
def contains (s : Chars) (literal : String) : Bool :=
  (AString.cString s).tails.any fun tail => literal.toList.isPrefixOf tail

def isAnonymousUri (strUserEntity : Chars) : Bool :=
  contains (strUserEntity.map AString.toLower) "anonymous"

def isSamePrivacyUri (strUriA strUriB : Chars) : Bool :=
  isAnonymousUri strUriA == isAnonymousUri strUriB

/-- Only the parameter "user=phone" is looked at. -/
def isSameUriParameter (strUserEntityA strUserEntityB : Chars) : Bool :=
  contains strUserEntityA ";user=phone" == contains strUserEntityB ";user=phone"

/-- The length of what two strings begin with in common. -/
def commonLength : Chars → Chars → Nat
  | c :: s, d :: t => if c = d then commonLength s t + 1 else 0
  | _, _ => 0

/-- The user part where there is one. -/
def matchedPart (strUri : Chars) : Chars :=
  if (env.getUserPart strUri).length = 0 then strUri else env.getUserPart strUri

/-- The length of what two addresses end with in common. -/
def getMatchingCount (strUriA strUriB : Chars) : Nat :=
  commonLength (matchedPart env strUriA).reverse (matchedPart env strUriB).reverse

def isSameUri (strUriA strUriB : Chars) (bAllowPrefix : Bool) : Bool :=
  let nLongerLength :=
    if strUriB.length < strUriA.length then strUriA.length else strUriB.length
  let nMargin := if bAllowPrefix then 3 else 0
  decide (nLongerLength ≤ getMatchingCount env strUriA strUriB + nMargin)

def getMatchingScore (strUriA strUriB : Chars) : Nat :=
  if isAnonymousUri strUriA && isAnonymousUri strUriB then 1 else 0

/-- Whether an entity is that of the near device. -/
def isLocalUri (strLocalUri strUserEntity : Chars) : Bool :=
  let strUserPart := env.getUserPart strUserEntity
  let strLocalUserPart := env.getUserPart strLocalUri
  if strUserPart.length = 0 then false
  else if strLocalUserPart.length = 0 then false
  else isSameUri env strUserPart strLocalUserPart true

/-- The status of the first end point; without an end point there is nothing to read. -/
def statusOf (element : UserElement) : Option ConfStatus :=
  element.user.objEndPoints.head?.map EndPoint.nStatus

def getSameUserEntities (info : ConferenceInfo) (element : UserElement) : List UserElement :=
  info.elements.filter fun other =>
    decide (other.nAddress ≠ element.nAddress) &&
      AString.equals element.user.strEntity other.user.strEntity

/-- Whether one of the users is connected. -/
def anyConnected : List UserElement → Option Bool
  | [] => some false
  | element :: rest =>
      (statusOf element).bind fun nStatus =>
        if isConnectedStatusCategory nStatus then some true else anyConnected rest

/-- Whether the status of the user cannot be that of the participant; nothing where the status of
a user is not there. -/
def isInvalidStatusUpdate (info : ConferenceInfo) (p : ConferenceParticipant)
    (element : UserElement) : Option Bool :=
  (statusOf element).bind fun nNewStatus =>
    let bOldConnected := isConnectedStatusCategory p.objConfUser.eStatus
    let bNewConnected := isConnectedStatusCategory nNewStatus
    if bOldConnected = false ∧ bNewConnected = true then some true
    else if p.bInfoUpdated = false ∧ bNewConnected = false then some true
    else
      (if p.bInfoUpdated = true ∧ bOldConnected = true ∧ bNewConnected = false then
        anyConnected (getSameUserEntities info element)
      else some false).map fun bAnother =>
        bAnother ||
          (p.bInfoUpdated && decide (info.nState = .partialState) && p.bDisconnectedExplicitly)

/-! ### Finding a participant -/

/-- The first participant whose user entity is that of the user. -/
def findParticipantByUserEntity (info : ConferenceInfo) (element : UserElement) :
    Nat → List ConferenceParticipant → Option (Option Nat)
  | _, [] => some none
  | i, p :: rest =>
      let strUserEntity := env.getUserPart element.user.strEntity
      let strParticipantUserEntity := env.getUserPart p.objConfUser.strUserEntity
      if p.bMatchingCompleted then findParticipantByUserEntity info element (i + 1) rest
      else if !isSamePrivacyUri strParticipantUserEntity strUserEntity then
        findParticipantByUserEntity info element (i + 1) rest
      else
        (isInvalidStatusUpdate info p element).bind fun bInvalid =>
          let bSameUri := isSameUri env strParticipantUserEntity strUserEntity false
          if bInvalid then findParticipantByUserEntity info element (i + 1) rest
          else if bSameUri &&
              !isSameUriParameter p.objConfUser.strUserEntity element.user.strEntity then
            findParticipantByUserEntity info element (i + 1) rest
          else if isAnonymousUri strUserEntity && !bSameUri then
            findParticipantByUserEntity info element (i + 1) rest
          else if bSameUri then some (some i)
          else if isSameUri env strParticipantUserEntity strUserEntity true then some (some i)
          else findParticipantByUserEntity info element (i + 1) rest

/-- The last of the participants whose `Refer-To` has most in common with the user. -/
def findByMatchingCount (info : ConferenceInfo) (element : UserElement) :
    Nat → List ConferenceParticipant → Option Nat → Nat → Option (Option Nat)
  | _, [], nLocalParticipantIndex, _ => some nLocalParticipantIndex
  | i, p :: rest, nLocalParticipantIndex, nMaxMatchingCount =>
      let strUserEntity := env.getUserPart element.user.strEntity
      let strReferToUri := env.getUserPart p.strReferInviteUri
      if p.bMatchingCompleted then
        findByMatchingCount info element (i + 1) rest nLocalParticipantIndex nMaxMatchingCount
      else if 0 < p.objConfUser.strUserEntity.length then
        findByMatchingCount info element (i + 1) rest nLocalParticipantIndex nMaxMatchingCount
      else if !isSamePrivacyUri strReferToUri strUserEntity then
        findByMatchingCount info element (i + 1) rest nLocalParticipantIndex nMaxMatchingCount
      else
        (isInvalidStatusUpdate info p element).bind fun bInvalid =>
          let nCount := getMatchingCount env strReferToUri strUserEntity
          if bInvalid then
            findByMatchingCount info element (i + 1) rest nLocalParticipantIndex
              nMaxMatchingCount
          else if 0 < nCount ∧ nMaxMatchingCount ≤ nCount then
            findByMatchingCount info element (i + 1) rest (some i) nCount
          else
            findByMatchingCount info element (i + 1) rest nLocalParticipantIndex
              nMaxMatchingCount

/-- The participant of the highest score, if it is the only one. -/
def findByMatchingScore (info : ConferenceInfo) (element : UserElement) :
    Nat → List ConferenceParticipant → Option Nat → Nat → Option (Option Nat)
  | _, [], nLocalParticipantIndex, _ => some nLocalParticipantIndex
  | i, p :: rest, nLocalParticipantIndex, nMaxMatchingScore =>
      let strUserEntity := env.getUserPart element.user.strEntity
      let strReferToUri := env.getUserPart p.strReferInviteUri
      if p.bMatchingCompleted || p.bInfoUpdated then
        findByMatchingScore info element (i + 1) rest nLocalParticipantIndex nMaxMatchingScore
      else
        (isInvalidStatusUpdate info p element).bind fun bInvalid =>
          let nScore := getMatchingScore strReferToUri strUserEntity
          if bInvalid then
            findByMatchingScore info element (i + 1) rest nLocalParticipantIndex
              nMaxMatchingScore
          else if !isSamePrivacyUri strReferToUri strUserEntity then
            findByMatchingScore info element (i + 1) rest nLocalParticipantIndex
              nMaxMatchingScore
          else if nMaxMatchingScore < nScore then
            findByMatchingScore info element (i + 1) rest (some i) nScore
          else if nScore = nMaxMatchingScore then
            findByMatchingScore info element (i + 1) rest none nMaxMatchingScore
          else
            findByMatchingScore info element (i + 1) rest nLocalParticipantIndex
              nMaxMatchingScore

def findParticipantByReferToUri (info : ConferenceInfo) (element : UserElement)
    (objParticipants : List ConferenceParticipant) : Option (Option Nat) :=
  (findByMatchingCount env info element 0 objParticipants none 0).bind fun nIndex =>
    match nIndex with
    | some nIndex => some (some nIndex)
    | none => findByMatchingScore env info element 0 objParticipants none 0

/-- The first participant that no document told of. -/
def findFirstNotUpdated (info : ConferenceInfo) (element : UserElement) :
    Nat → List ConferenceParticipant → Option (Option Nat)
  | _, [] => some none
  | i, p :: rest =>
      (isInvalidStatusUpdate info p element).bind fun bInvalid =>
        if bInvalid then findFirstNotUpdated info element (i + 1) rest
        else if 0 < p.objConfUser.strUserEntity.length then
          findFirstNotUpdated info element (i + 1) rest
        else if p.bInfoUpdated = false then some (some i)
        else findFirstNotUpdated info element (i + 1) rest

/-- The participant, and whether the near device was among the users. -/
def findParticipantByOrder (strLocalUri : Chars) (info : ConferenceInfo) (element : UserElement)
    (nIndexInXml : Nat) (objParticipants : List ConferenceParticipant)
    (bHostInfoInUsers : Bool) : Option (Option Nat × Bool) :=
  if !bHostInfoInUsers && isLocalUri env strLocalUri element.user.strEntity then
    some (none, true)
  else
    let nIndexInXml :=
      if bHostInfoInUsers then (if nIndexInXml = 0 then 4294967295 else nIndexInXml - 1)
      else nIndexInXml
    if objParticipants.length ≤ nIndexInXml then some (none, bHostInfoInUsers)
    else
      (findFirstNotUpdated info element 0 objParticipants).map fun nIndex =>
        (nIndex, bHostInfoInUsers)

def findParticipant (strLocalUri : Chars) (info : ConferenceInfo) (ePolicy : MatchingPolicy)
    (element : UserElement) (nIndexInXml : Nat) (objParticipants : List ConferenceParticipant)
    (bHostInfoInUsers : Bool) : Option (Option Nat × Bool) :=
  match ePolicy with
  | .userEntity =>
      (findParticipantByUserEntity env info element 0 objParticipants).map fun nIndex =>
        (nIndex, bHostInfoInUsers)
  | .referToUri =>
      (findParticipantByReferToUri env info element objParticipants).map fun nIndex =>
        (nIndex, bHostInfoInUsers)
  | .order =>
      findParticipantByOrder env strLocalUri info element nIndexInXml objParticipants
        bHostInfoInUsers

/-! ### Updating the participants -/

/-- The participants on the way through a document, with the updates that were made. -/
structure Updating where
  objParticipants : List ConferenceParticipant
  objNotMatchedUsers : List UserElement
  bHostInfoInUsers : Bool
  objMatches : List UserMatch

namespace Updating

def addNotMatchedUser (x : Updating) (element : UserElement) : Updating :=
  if x.objNotMatchedUsers.any fun other => other.nAddress == element.nAddress then x
  else { x with objNotMatchedUsers := x.objNotMatchedUsers ++ [element] }

def removeNotMatchedUser (x : Updating) (element : UserElement) : Updating :=
  { x with
    objNotMatchedUsers :=
      x.objNotMatchedUsers.eraseP fun other => other.nAddress == element.nAddress }

end Updating

/-- Without an index the user is added. -/
def updateParticipant (ePolicy : MatchingPolicy) (x : Updating) (element : UserElement)
    (nParticipantIndex : Option Nat) : Option Updating :=
  match nParticipantIndex with
  | some nIndex =>
      match x.objParticipants[nIndex]? with
      | none => some x
      | some p =>
          element.user.objEndPoints.head?.map fun endPoint =>
            { x with
              objParticipants := x.objParticipants.set nIndex (p.update env element.user endPoint)
              objMatches := x.objMatches ++ [⟨ePolicy, element, nIndex⟩] }
  | none =>
      element.user.objEndPoints.head?.map fun endPoint =>
        { x with
          objParticipants := x.objParticipants ++
            [(ConferenceParticipant.ofConfUser .new).update env element.user endPoint]
          objMatches := x.objMatches ++ [⟨ePolicy, element, x.objParticipants.length⟩] }

/-- One policy for the users that are given; and whether each has a participant. -/
def updateUsers (strLocalUri : Chars) (info : ConferenceInfo) (ePolicy : MatchingPolicy) :
    Nat → List UserElement → Updating → Bool → Option (Updating × Bool)
  | _, [], x, bCompleted => some (x, bCompleted)
  | nIndexInXml, element :: rest, x, bCompleted =>
      (findParticipant env strLocalUri info ePolicy element nIndexInXml x.objParticipants
          x.bHostInfoInUsers).bind fun found =>
        let x := { x with bHostInfoInUsers := found.2 }
        if isLocalUri env strLocalUri element.user.strEntity then
          updateUsers strLocalUri info ePolicy (nIndexInXml + 1) rest x bCompleted
        else
          match found.1 with
          | none =>
              updateUsers strLocalUri info ePolicy (nIndexInXml + 1) rest
                (x.addNotMatchedUser element) false
          | some nIndex =>
              (updateParticipant env ePolicy (x.removeNotMatchedUser element) element
                  (some nIndex)).bind fun x =>
                updateUsers strLocalUri info ePolicy (nIndexInXml + 1) rest x bCompleted

/-- The users without a participant are added, the last one first. -/
def addUsers (ePolicy : MatchingPolicy) : List UserElement → Updating → Option Updating
  | [], x => some x
  | element :: rest, x =>
      (updateParticipant env ePolicy (x.removeNotMatchedUser element) element none).bind
        (addUsers ePolicy rest)

def findAndUpdate (strLocalUri : Chars) (info : ConferenceInfo) (x : Updating)
    (ePolicy : MatchingPolicy) : Option (Updating × Bool) :=
  let objUsers := if x.objNotMatchedUsers = [] then info.elements else x.objNotMatchedUsers
  (updateUsers env strLocalUri info ePolicy 0 objUsers x true).bind fun updated =>
    if ePolicy = .order ∧ info.nState = .full ∧
        env.bSubscriptionForParticipantRequired = true then
      (addUsers env ePolicy updated.1.objNotMatchedUsers.reverse updated.1).map fun x =>
        (x, updated.2 || decide (x.objNotMatchedUsers = []))
    else some updated

/-- The policies until each user has a participant. -/
def applyPolicies (strLocalUri : Chars) (info : ConferenceInfo) :
    List MatchingPolicy → Updating → Option Updating
  | [], x => some x
  | ePolicy :: rest, x =>
      (findAndUpdate env strLocalUri info x ePolicy).bind fun updated =>
        if updated.2 then some updated.1 else applyPolicies strLocalUri info rest updated.1

def isInitialNotifyWithoutUsers (list : ConferenceParticipantList) (info : ConferenceInfo) :
    Bool :=
  if 0 < list.nVersion then false
  else
    match info.objUsers with
    | [] => true
    | [user] => isLocalUri env list.strLocalUri user.strEntity
    | _ => false

/-- The list and the updates that were made; nothing where an end point was not there. -/
def updateParticipantList (list : ConferenceParticipantList) (info : ConferenceInfo) :
    Option (ConferenceParticipantList × List UserMatch × Bool) :=
  if isInitialNotifyWithoutUsers env list info then some (list, [], false)
  else
    (applyPolicies env list.strLocalUri info [.userEntity, .referToUri, .order]
        ⟨list.objParticipants.map ConferenceParticipant.startMatching, [], false, []⟩).map fun x =>
      ({ list with
          objParticipants :=
            if info.nState = .full then
              x.objParticipants.map ConferenceParticipant.setDeletedToDisconnected
            else x.objParticipants },
        x.objMatches, true)

def checkValidVersion (list : ConferenceParticipantList) (info : ConferenceInfo) : Bool :=
  if env.bPackageVersionCheckRequired = false then true
  else if list.nVersion < 0 then true
  else if info.nState = .partialState then decide (list.nVersion + 1 = info.nVersion)
  else decide (list.nVersion < info.nVersion)

def updateDescription (list : ConferenceParticipantList) (info : ConferenceInfo) :
    ConferenceParticipantList :=
  { list with nVersion := info.nVersion, nMaxUserCount := info.nMaxUserCount }

inductive UpdateResult where
  | malformedXml | infoDeleted | invalidVersion | updated | nothingUpdated
  deriving DecidableEq, Repr

structure Updated where
  eResult : UpdateResult
  list : ConferenceParticipantList
  objMatches : List UserMatch

def update (list : ConferenceParticipantList) (document : Option DomNode) : Option Updated :=
  match ConferenceInfo.parse document with
  | none => some ⟨.malformedXml, list, []⟩
  | some info =>
      if info.nState = .deleted then some ⟨.infoDeleted, list, []⟩
      else if checkValidVersion env list info = false then some ⟨.invalidVersion, list, []⟩
      else
        (updateParticipantList env list info).map fun updated =>
          ⟨if updated.2.2 then .updated else .nothingUpdated,
            updateDescription updated.1 info, updated.2.1⟩

end ConferenceInfoUpdater

end ImsStack.Conference
