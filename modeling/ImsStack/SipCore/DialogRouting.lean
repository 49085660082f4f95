import ImsStack.Platform.AString
import ImsStack.SipCore.SipDialogState

/-!
The route set and the targets of a dialog: the rest of
`SipDialogState::UpdateDialogDetails`, and the usages of a dialog that decide what
becomes of its state.  A header is its text, and the empty text where the constructor has
made a header without content; running out of memory, the only way these functions fail,
is left out.
-/

namespace ImsStack.SipCore

open ImsStack.Platform.AString (Chars)

/-- `SipStatusCode::IsProvisional`, to which 100 does not belong. -/
def isProvisional (code : Nat) : Bool := decide (100 < code ∧ code < 200)

/-- A message and its direction, with what the dialog reads of it. -/
structure SipMessage extends SipMessageInfo where
  /-- The status code of a response. -/
  statusCode : Nat
  hasRSeq : Bool
  /-- The option tag 100rel is in a Require header. -/
  requires100Rel : Bool
  hasRetryAfter : Bool
  toTag : Chars
  /-- The branch of the topmost Via header. -/
  viaBranch : Chars
  recordRoutes : List Chars
  /-- The Contact headers other than a star. -/
  contacts : List Chars
  deriving DecidableEq, Repr

namespace SipMessage

/-- `SipStack::IsMessageRpr`: a reliable provisional response. -/
def isMessageRpr (msg : SipMessage) : Bool :=
  !msg.isRequest && isProvisional msg.statusCode && msg.hasRSeq && msg.requires100Rel

/-- The methods that may move the remote target. -/
def hasRefreshMethod (msg : SipMessage) : Bool :=
  match msg.method with
  | .invite | .update | .subscribe | .notify | .refer => true
  | _ => false

/-- `SipDialogState::IsTargetRefreshMessage`. -/
def isTargetRefreshMessage (msg : SipMessage) : Bool :=
  msg.hasRefreshMethod &&
    (msg.isRequest ||
      isFinalSuccess msg.statusCode ||
      (isProvisional msg.statusCode && (msg.isMessageRpr || msg.toTag ≠ [])))

/-- A success response to an INVITE. -/
def isInviteSuccess (msg : SipMessage) : Bool :=
  !msg.isRequest && msg.method == .invite && isFinalSuccess msg.statusCode

end SipMessage

/-- `SipDialogState::PendingRemoteTarget`: the Contact of a received request under the
branch of its Via header. -/
abbrev PendingRemoteTarget := Chars × Chars

/-- `SipDialogState` with the parts that requests are routed by. -/
structure RoutedDialog extends SipDialogState where
  routeSet : List Chars
  /-- The route set comes from an unreliable provisional response. -/
  preloadedSet : Bool
  localTarget : Chars
  remoteTarget : Chars
  pendingRemoteTargets : List PendingRemoteTarget
  deriving DecidableEq, Repr

namespace RoutedDialog

/-- The constructor. -/
def new (isCaller : Bool) : RoutedDialog where
  toSipDialogState := .new isCaller
  routeSet := []
  preloadedSet := false
  localTarget := []
  remoteTarget := []
  pendingRemoteTargets := []

/-- `SipDialogState::AddPendingRemoteTarget`. -/
def addPendingRemoteTarget (d : RoutedDialog) (msg : SipMessage) : RoutedDialog :=
  if msg.viaBranch = [] then d
  else if d.pendingRemoteTargets.any (·.1 == msg.viaBranch) then d
  else
    match msg.contacts with
    | [] => d
    | contact :: _ =>
      { d with
        pendingRemoteTargets := d.pendingRemoteTargets ++ [(msg.viaBranch, contact)] }

/-- `SipDialogState::RemovePendingRemoteTarget`. -/
def removePendingRemoteTarget (d : RoutedDialog) (msg : SipMessage) : RoutedDialog :=
  if msg.viaBranch = [] then d
  else
    { d with
      pendingRemoteTargets := d.pendingRemoteTargets.eraseP (·.1 = msg.viaBranch) }

/-- `SipDialogState::UpdateAndRemovePendingRemoteTarget`: the match is removed, and all
that come before it. -/
def updateAndRemovePendingRemoteTarget (d : RoutedDialog) (msg : SipMessage) :
    RoutedDialog :=
  if msg.viaBranch = [] then d
  else
    match d.pendingRemoteTargets.dropWhile (·.1 ≠ msg.viaBranch) with
    | [] => d
    | (_, contact) :: rest =>
      { d with remoteTarget := contact, pendingRemoteTargets := rest }

/-- `SipDialogState::UpdateContact`. -/
def updateContact (d : RoutedDialog) (msg : SipMessage) : RoutedDialog :=
  if !msg.isTargetRefreshMessage then
    if msg.isOutgoing && !msg.isRequest && msg.statusCode != 100 then
      d.removePendingRemoteTarget msg
    else d
  else
    match msg.contacts with
    | [] => d
    | contact :: _ =>
      if msg.isOutgoing then
        let d := { d with localTarget := contact }
        if !msg.isRequest then d.updateAndRemovePendingRemoteTarget msg else d
      else if d.state ≠ .init && msg.isRequest then d.addPendingRemoteTarget msg
      else { d with remoteTarget := contact }

/-- `SipDialogState::ClearRouteSet`. -/
def clearRouteSet (d : RoutedDialog) : RoutedDialog := { d with routeSet := [] }

/-- The Record-Route headers join the route set: reversed and in front where a response
has them, behind and in order where a request has. -/
def insertRecordRoutes (d : RoutedDialog) (msg : SipMessage) : RoutedDialog :=
  if msg.isRequest then { d with routeSet := d.routeSet ++ msg.recordRoutes }
  else
    { d with
      routeSet := msg.recordRoutes.reverse ++ d.routeSet
      preloadedSet :=
        d.preloadedSet || (!msg.isMessageRpr && isProvisional msg.statusCode) }

/-- `SipDialogState::CreateRouteSet`. -/
def createRouteSet (d : RoutedDialog) (msg : SipMessage) : RoutedDialog :=
  if msg.isTargetRefreshMessage then
    let d := if msg.recordRoutes ≠ [] then d.insertRecordRoutes msg else d
    d.updateContact msg
  else d

/-- `SipDialogState::UpdateRouteSet`. -/
def updateRouteSet (d : RoutedDialog) (msg : SipMessage) : RoutedDialog :=
  if msg.isTargetRefreshMessage then
    if d.preloadedSet then
      { d.clearRouteSet.createRouteSet msg with preloadedSet := false }
    else d.updateContact msg
  else d

/-- What a received message does to the route set of a dialog that is not confirmed. -/
def learnRouteSet (d : RoutedDialog) (msg : SipMessage) : RoutedDialog :=
  if d.routeSet = [] then d.createRouteSet msg
  else if msg.isInviteSuccess then
    { d with preloadedSet := false }.clearRouteSet.createRouteSet msg
  else d.updateRouteSet msg

/-- `SipDialogState::UpdateDialogDetails`. -/
def updateDialogDetails (d : RoutedDialog) (isShared : Bool) (msg : SipMessage)
    (usageState : Option DState) (action : Action) : RoutedDialog :=
  if d.state = .terminated then d
  else
    let d := if !msg.isOutgoing && d.state != .confirmed then d.learnRouteSet msg else d
    let d := d.updateContact msg
    { d with
      toSipDialogState :=
        d.toSipDialogState.updateDialogDetails isShared msg.toSipMessageInfo usageState
          action }

end RoutedDialog

/-- `SipDialogSubscribeUsage::SUB_STATE_*`. -/
inductive SubState where
  | init | active | pending | terminated
  deriving DecidableEq, Repr

/-- The usage of the dialog that a message belongs to, as it is when the message comes
to the dialog: the Subscription-State of a NOTIFY is stored in it before. -/
inductive Usage where
  | ephemeral
  | invite
  | subscribe (subState : SubState) (cSeqForNotifyWithTerminated : UInt32)
  deriving DecidableEq, Repr

/-- `TRIGGER_*` of the usages. -/
inductive Trigger where
  | init | c1xx | c2xx | non2xx
  | c2xxBye | bye
  | xxxNotifyTerminated | notify
  deriving DecidableEq, Repr

/-- What the stack knows of the other usages of the dialog. -/
structure Usages where
  /-- `SipDialogSharedState::IsShared`. -/
  isShared : Bool
  /-- `SipDialogState::HasMultipleDialogUsages`. -/
  hasMultipleDialogUsages : Bool
  /-- `SipFeatures::IsMultipleDialogUsagesRequiredForNonSharedDialog`. -/
  isMultipleDialogUsagesRequired : Bool
  deriving DecidableEq, Repr

/-- `SipDialogInviteUsage::STATE_TABLE`. -/
def inviteStateTable : DState → Trigger → Option DState
  | .init, .c1xx => some .early
  | .init, .c2xx => some .confirmed
  | .init, .init | .init, .non2xx | .init, .c2xxBye | .init, .bye => some .init
  | .terminated, .init | .terminated, .c1xx | .terminated, .c2xx | .terminated, .non2xx
  | .terminated, .c2xxBye | .terminated, .bye => some .terminated
  | .early, .c2xx => some .confirmed
  | .early, .non2xx | .early, .c2xxBye => some .terminated
  | .early, .init | .early, .c1xx | .early, .bye => some .early
  | .confirmed, .c2xxBye => some .terminated
  | .confirmed, .init | .confirmed, .c1xx | .confirmed, .c2xx | .confirmed, .non2xx
  | .confirmed, .bye => some .confirmed
  | _, .xxxNotifyTerminated | _, .notify => none

/-- `SipDialogSubscribeUsage::STATE_TABLE`. -/
def subscribeStateTable : DState → Trigger → Option DState
  | .init, .c1xx => some .early
  | .init, .c2xx | .init, .notify => some .confirmed
  | .init, .xxxNotifyTerminated => some .terminated
  | .init, .init | .init, .non2xx => some .init
  | .terminated, .init | .terminated, .c1xx | .terminated, .c2xx | .terminated, .non2xx
  | .terminated, .xxxNotifyTerminated | .terminated, .notify => some .terminated
  | .early, .c2xx | .early, .notify => some .confirmed
  | .early, .non2xx | .early, .xxxNotifyTerminated => some .terminated
  | .early, .init | .early, .c1xx => some .early
  | .confirmed, .xxxNotifyTerminated => some .terminated
  | .confirmed, .init | .confirmed, .c1xx | .confirmed, .c2xx | .confirmed, .non2xx
  | .confirmed, .notify => some .confirmed
  | _, .c2xxBye | _, .bye => none

/-- The methods whose 405 or 501 ends a usage of a confirmed dialog. -/
def Usage.isEndedBy : Usage → SipMethod → Bool
  | .invite, .invite | .invite, .update | .invite, .prack | .invite, .bye => true
  | .invite, _ => false
  | .subscribe .., .subscribe | .subscribe .., .notify => true
  | .subscribe .., _ => false
  | .ephemeral, _ => true

/-- `SipDialogUsage::GetActionForResponse`. -/
def Usage.getActionForResponse (usage : Usage) (usages : Usages) (state : DState)
    (msg : SipMessage) : Action :=
  let ofUsages (action : Action) : Action :=
    if usages.isMultipleDialogUsagesRequired || usages.hasMultipleDialogUsages then action
    else if state ≠ .confirmed then .transitState
    else .ignore
  match msg.statusCode with
  | 481 => if msg.isOutgoing && msg.method == .prack then .ignore else .destroyUsage
  | 405 | 501 =>
    if state = .confirmed && !usage.isEndedBy msg.method then .ignore
    else ofUsages .destroyUsage
  | 489 =>
    match usage with
    | .subscribe .. => .destroyUsage
    | _ => if state = .confirmed then .ignore else .destroyUsage
  | 480 => if state = .confirmed && msg.hasRetryAfter then .ignore else ofUsages .destroyUsage
  | 404 | 410 | 416 | 482 | 483 | 484 | 485 | 502 | 604 => ofUsages .destroyDialog
  | _ => if state = .confirmed then .ignore else .transitState

/-- `SipDialogInviteUsage::GetActionNTrigger`. -/
def getInviteActionNTrigger (usages : Usages) (state : DState) (msg : SipMessage) :
    Action × Trigger :=
  if msg.isRequest then (.transitState, if msg.method = .bye then .bye else .init)
  else
    let action := Usage.invite.getActionForResponse usages state msg
    if isProvisional msg.statusCode then (action, .c1xx)
    else if isFinalSuccess msg.statusCode then
      if msg.method = .bye then (.transitState, .c2xxBye)
      else if msg.method ≠ .invite then (.ignore, .c2xx)
      else (action, .c2xx)
    else if state = .early then (action, if msg.method = .invite then .non2xx else .init)
    else if msg.method ≠ .invite && msg.method ≠ .bye then (.ignore, .non2xx)
    else (action, .non2xx)

/-- `SipDialogSubscribeUsage::GetActionNTrigger`. -/
def getSubscribeActionNTrigger (subState : SubState) (cSeqForNotifyWithTerminated : UInt32)
    (usages : Usages) (state : DState) (msg : SipMessage) : Action × Trigger :=
  if msg.isRequest then
    (.transitState, if msg.method = .notify && subState ≠ .init then .notify else .init)
  else
    let action :=
      (Usage.subscribe subState cSeqForNotifyWithTerminated).getActionForResponse usages state
        msg
    if isProvisional msg.statusCode then (action, .c1xx)
    else if subState = .terminated &&
        (cSeqForNotifyWithTerminated = invalidSeqNum ||
          (msg.method = .notify && cSeqForNotifyWithTerminated = msg.cSeqNumber)) then
      (.transitState, .xxxNotifyTerminated)
    else (action, if isFinalSuccess msg.statusCode then .c2xx else .non2xx)

/-- `SipDialogUsage::UpdateUsageDetails` and `SipDialogEx::OnUpdateDialogDetails`: the
state that the usage has for the dialog, and the action. -/
def Usage.getNextState (usage : Usage) (usages : Usages) (state : DState) (msg : SipMessage) :
    Option DState × Action :=
  match usage with
  | .ephemeral => (none, .ignore)
  | .invite =>
    let (action, trigger) := getInviteActionNTrigger usages state msg
    (inviteStateTable state trigger, action)
  | .subscribe subState cSeq =>
    let (action, trigger) := getSubscribeActionNTrigger subState cSeq usages state msg
    (subscribeStateTable state trigger, action)

/-- A message goes through a usage of the dialog. -/
def RoutedDialog.updateUsageDetails (d : RoutedDialog) (usage : Usage) (usages : Usages)
    (msg : SipMessage) : RoutedDialog :=
  let (usageState, action) := usage.getNextState usages d.state msg
  d.updateDialogDetails usages.isShared msg usageState action

end ImsStack.SipCore
