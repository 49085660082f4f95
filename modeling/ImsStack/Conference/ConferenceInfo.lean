import ImsStack.Platform.Dom

/-!
Conference event documents: `ConferenceInfo`.  A document is the tree that the XML parser makes
of its text, or nothing where the parser refuses it.
-/

namespace ImsStack.Conference

open Platform
open Platform.AString (Chars)

inductive InfoState where
  | invalid | full | partialState | deleted
  deriving DecidableEq, Repr

/-- The values of `STATUS_IDLE` and its like. -/
inductive ConfStatus where
  | idle | progressing | connected | disconnected | onHold | mutedViaFocus | pending | alerting
  | dialingIn | dialingOut | disconnecting
  | fail | reject | busy | serverError | notSupported | notAcceptable | noAnswer | notReachable
  | lowBattery | forbidden | intServerError
  deriving DecidableEq, Repr

structure EndPoint where
  strEntity : Chars
  nState : InfoState
  strDisplayText : Chars
  nStatus : ConfStatus
  deriving DecidableEq, Repr

structure User where
  strEntity : Chars
  nState : InfoState
  strDisplayText : Chars
  objEndPoints : List EndPoint
  deriving DecidableEq, Repr

structure ConferenceInfo where
  nState : InfoState
  nVersion : Int
  nMaxUserCount : Int
  objUsers : List User
  deriving DecidableEq, Repr

namespace ConferenceInfo

def DEFAULT_MAX_USER_COUNT : Int := 6

def convertState (strState : Chars) : InfoState :=
  if AString.equalsLiteral strState "partial" then .partialState
  else if AString.equalsLiteral strState "deleted" then .deleted
  else .full

def convertStatus (strStatus : Chars) : ConfStatus :=
  if AString.equalsLiteral strStatus "connected" then .connected
  else if AString.equalsLiteral strStatus "disconnected" then .disconnected
  else if AString.equalsLiteral strStatus "on-hold" then .onHold
  else if AString.equalsLiteral strStatus "muted-via-focus" then .mutedViaFocus
  else if AString.equalsLiteral strStatus "pending" then .pending
  else if AString.equalsLiteral strStatus "alerting" then .alerting
  else if AString.equalsLiteral strStatus "dialing-in" then .dialingIn
  else if AString.equalsLiteral strStatus "dialing-out" then .dialingOut
  else if AString.equalsLiteral strStatus "disconnecting" then .disconnecting
  else if AString.equalsLiteral strStatus "connect-fail" then .fail
  else .idle

def getSubElements (element : DomNode) (name : String) : List DomNode :=
  element.children.filter fun child => child.hasName name

/-- The value of the first sub-element of the name that has a child. -/
def getSubElementValue (element : DomNode) (name : String) : Chars :=
  (element.children.findSome? fun child =>
    if child.hasName name then child.children.head?.map DomNode.getNodeValue else none).getD []

def createEndPoint (element : DomNode) : EndPoint where
  strEntity := element.getAttribute "entity"
  nState := convertState (element.getAttribute "state")
  strDisplayText := getSubElementValue element "display-text"
  nStatus := convertStatus (getSubElementValue element "status")

def createUser (element : DomNode) : User where
  strEntity := element.getAttribute "entity"
  nState := convertState (element.getAttribute "state")
  strDisplayText := getSubElementValue element "display-text"
  objEndPoints := (getSubElements element "endpoint").map createEndPoint

def createConferenceDescription (info : ConferenceInfo) (element : DomNode) : ConferenceInfo :=
  let strMaxUserCount := getSubElementValue element "maximum-user-count"
  if 0 < strMaxUserCount.length then
    { info with nMaxUserCount := AString.toInt32 strMaxUserCount }
  else info

def createUsers (info : ConferenceInfo) (element : DomNode) : ConferenceInfo :=
  { info with objUsers := info.objUsers ++ (getSubElements element "user").map createUser }

def createConferenceInfo (element : DomNode) : ConferenceInfo :=
  element.children.foldl (fun info child =>
    if child.hasName "conference-description" then info.createConferenceDescription child
    else if child.hasName "users" then info.createUsers child
    else info)
    { nState := convertState (element.getAttribute "state")
      nVersion := AString.toInt32 (element.getAttribute "version")
      nMaxUserCount := DEFAULT_MAX_USER_COUNT
      objUsers := [] }

def parse (document : Option DomNode) : Option ConferenceInfo :=
  match document with
  | none => none
  | some element =>
      if !element.hasName "conference-info" then none else some (createConferenceInfo element)

end ConferenceInfo

end ImsStack.Conference
