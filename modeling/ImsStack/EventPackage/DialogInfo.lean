import ImsStack.Platform.Dom

/-!
Dialog event documents: `DialogInfo` and `DialogInfoManager`.  A document is the tree that the
XML parser makes of its text, or nothing where the parser refuses it.  The extra elements of
single carriers are left out.
-/

namespace ImsStack.EventPackage

open Platform
open Platform.AString (Chars)

inductive InfoState where
  | invalid | full | partialState
  deriving DecidableEq, Repr

inductive DialogStateName where
  | idle | trying | proceeding | early | confirmed | terminated
  deriving DecidableEq, Repr

/-- The values of the events; the last three share one. -/
inductive DialogStateEvent where
  | idle | cancelled | rejected | replaced | localBye | remoteByeOrErrorOrTimeout
  deriving DecidableEq, Repr

inductive DialogDirection where
  | idle | initiator | recipient
  deriving DecidableEq, Repr

/-- `Dialog::State`. -/
structure DialogState where
  nEvent : DialogStateEvent
  nCode : Int
  nState : DialogStateName
  deriving DecidableEq, Repr

structure Replaces where
  strCallId : Chars
  strLocalTag : Chars
  strRemoteTag : Chars
  deriving DecidableEq, Repr

structure NameAddr where
  strDisplay : Chars
  strUri : Chars
  deriving DecidableEq, Repr

structure Target where
  objParamMap : List (Chars × Chars)
  strUri : Chars
  deriving DecidableEq, Repr

structure Participant where
  objIdentity : NameAddr
  objTarget : Target
  deriving DecidableEq, Repr

structure Dialog where
  strId : Chars
  strCallId : Chars
  strLocalTag : Chars
  strRemoteTag : Chars
  nDirection : DialogDirection
  objState : DialogState
  nDuration : Int
  objReplaces : Replaces
  objReferredBy : NameAddr
  objLocal : Participant
  objRemote : Participant
  deriving DecidableEq, Repr

structure DialogInfo where
  objDialogs : List Dialog
  nVersion : Int
  nState : InfoState
  strEntity : Chars
  deriving DecidableEq, Repr

namespace DialogInfo

def new : DialogInfo := ⟨[], 0, .invalid, []⟩

/-- The value of the first text node, where there is one. -/
def getElementValue (element : DomNode) : Chars :=
  match element.children.find? fun child => !child.isElement with
  | none => []
  | some child => child.getNodeValue

def isElementExist (element : DomNode) (name : String) : Bool :=
  element.children.any fun child => child.hasName name

def isAttrExist (element : DomNode) (name : String) : Bool :=
  decide (0 < (element.getAttribute name).length)

def convertState (strState : Chars) : InfoState :=
  if AString.equalsLiteral strState "partial" then .partialState else .full

end DialogInfo

namespace DialogState

def new : DialogState := ⟨.idle, 0, .idle⟩

def convertDialogState (strState : Chars) : DialogStateName :=
  if AString.equalsIgnoreCaseLiteral strState "trying" then .trying
  else if AString.equalsIgnoreCaseLiteral strState "proceeding" then .proceeding
  else if AString.equalsIgnoreCaseLiteral strState "early" then .early
  else if AString.equalsIgnoreCaseLiteral strState "confirmed" then .confirmed
  else if AString.equalsIgnoreCaseLiteral strState "terminated" then .terminated
  else .idle

def convertDialogStateEvent (strStateEvent : Chars) : DialogStateEvent :=
  if AString.equalsIgnoreCaseLiteral strStateEvent "cancelled" then .cancelled
  else if AString.equalsIgnoreCaseLiteral strStateEvent "rejected" then .rejected
  else if AString.equalsIgnoreCaseLiteral strStateEvent "replaced" then .replaced
  else if AString.equalsIgnoreCaseLiteral strStateEvent "local-bye" then .localBye
  else if AString.equalsIgnoreCaseLiteral strStateEvent "remote-bye" then
    .remoteByeOrErrorOrTimeout
  else if AString.equalsIgnoreCaseLiteral strStateEvent "error" then .remoteByeOrErrorOrTimeout
  else if AString.equalsIgnoreCaseLiteral strStateEvent "timeout" then
    .remoteByeOrErrorOrTimeout
  else .idle

def update (state : DialogState) (element : DomNode) : DialogState :=
  { nEvent := convertDialogStateEvent (element.getAttribute "event")
    nCode := AString.toInt32 (element.getAttribute "code")
    nState :=
      if 0 < (DialogInfo.getElementValue element).length then
        convertDialogState (DialogInfo.getElementValue element)
      else state.nState }

end DialogState

def NameAddr.update (nameAddr : NameAddr) (element : DomNode) : NameAddr :=
  { strDisplay := element.getAttribute "display"
    strUri :=
      if 0 < (DialogInfo.getElementValue element).length then DialogInfo.getElementValue element
      else nameAddr.strUri }

def Target.update (target : Target) (element : DomNode) : Target :=
  { objParamMap := element.children.foldl (fun params child =>
      if child.hasName "param" then
        params ++ [(child.getAttribute "pname", child.getAttribute "pval")]
      else params) target.objParamMap
    strUri := element.getAttribute "uri" }

def Participant.update (participant : Participant) (element : DomNode) : Participant :=
  element.children.foldl (fun participant child =>
    if child.hasName "identity" then
      { participant with objIdentity := participant.objIdentity.update child }
    else if child.hasName "target" then
      { participant with objTarget := participant.objTarget.update child }
    else participant) participant

namespace Dialog

def new : Dialog :=
  ⟨[], [], [], [], .idle, DialogState.new, 0, ⟨[], [], []⟩, ⟨[], []⟩, ⟨⟨[], []⟩, ⟨[], []⟩⟩,
    ⟨⟨[], []⟩, ⟨[], []⟩⟩⟩

def convertDirection (strState : Chars) : DialogDirection :=
  if AString.equalsLiteral strState "initiator" then .initiator
  else if AString.equalsLiteral strState "recipient" then .recipient
  else .idle

/-- What `Dialog::Update` takes from a child element. -/
def updateFromChild (dialog : Dialog) (child : DomNode) : Dialog :=
  if child.hasName "state" then { dialog with objState := dialog.objState.update child }
  else if child.hasName "duration" then
    if 0 < (DialogInfo.getElementValue child).length then
      { dialog with nDuration := AString.toInt32 (DialogInfo.getElementValue child) }
    else dialog
  else if child.hasName "replaces" then
    { dialog with
      objReplaces :=
        { strCallId := child.getAttribute "call-id"
          strLocalTag := child.getAttribute "local-tag"
          strRemoteTag := child.getAttribute "remote-tag" } }
  else if child.hasName "referred-by" then
    { dialog with objReferredBy := dialog.objReferredBy.update child }
  else if child.hasName "local" then { dialog with objLocal := dialog.objLocal.update child }
  else if child.hasName "remote" then { dialog with objRemote := dialog.objRemote.update child }
  else dialog

/-- `Dialog::Update` of a new dialog; none is `IMS_FAILURE`. -/
def ofElement? (element : DomNode) : Option Dialog :=
  if !DialogInfo.isAttrExist element "id" || !DialogInfo.isElementExist element "state" then none
  else
    some (element.children.foldl updateFromChild
      { new with
        strId := element.getAttribute "id"
        strCallId := element.getAttribute "call-id"
        strLocalTag := element.getAttribute "local-tag"
        strRemoteTag := element.getAttribute "remote-tag"
        nDirection := convertDirection (element.getAttribute "direction") })

end Dialog

namespace DialogInfo

/-- The dialog with the same id, if any, is removed; the new one is appended unless it is
terminated. -/
def merge (objDialogs : List Dialog) (newDialog : Dialog) : List Dialog :=
  let kept := objDialogs.eraseP fun dialog => AString.equals newDialog.strId dialog.strId
  if newDialog.objState.nState = .terminated then kept else kept ++ [newDialog]

/-- The loop over the dialog elements; none is `IMS_FAILURE`. -/
def mergeElements (objDialogs : List Dialog) : List DomNode → Option (List Dialog)
  | [] => some objDialogs
  | element :: rest =>
      match Dialog.ofElement? element with
      | none => none
      | some newDialog => mergeElements (merge objDialogs newDialog) rest

def update (info : DialogInfo) (element : DomNode) : Option DialogInfo :=
  if !isAttrExist element "version" || !isAttrExist element "state" ||
      !isAttrExist element "entity" then none
  else
    let info := { info with
      nVersion := AString.toInt32 (element.getAttribute "version")
      nState := convertState (element.getAttribute "state")
      strEntity := element.getAttribute "entity" }
    match element.getElementsByTagName "dialog" with
    | [] => if info.nState = .full then some info else none
    | elements =>
        (mergeElements info.objDialogs elements).map fun objDialogs =>
          { info with objDialogs := objDialogs }

end DialogInfo

structure DialogInfoManager where
  pLastDialogInfo : Option DialogInfo
  deriving DecidableEq, Repr

namespace DialogInfoManager

def new : DialogInfoManager := ⟨none⟩

/-- `DialogInfoManager::Update` of what the parser makes of a text; the second component is
whether it succeeds. -/
def update (manager : DialogInfoManager) (document : Option DomNode) :
    DialogInfoManager × Bool :=
  match document with
  | none => (manager, false)
  | some element =>
      if !element.hasName "dialog-info" then (manager, false)
      else
        match DialogInfo.new.update element with
        | none => (manager, false)
        | some info => (⟨some info⟩, true)

def getDialogs (manager : DialogInfoManager) : List Dialog :=
  match manager.pLastDialogInfo with
  | none => []
  | some info => info.objDialogs

end DialogInfoManager

end ImsStack.EventPackage
