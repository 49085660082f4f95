import ImsStack.Call.MtcCall
import ImsStack.Library.TransitionSystem
import ImsStack.Precondition.QosStatusTable

/-!
`MtcPreconditionManager` for one session whose dialog is not confirmed: the status of the
bearers, the status table, the flag for the first body, and the events that change them.
Media types are the bit masks of the source.
-/

namespace ImsStack.Precondition

open TransitionSystem
open Call (CallType)

inductive QosStatus where
  | idle | available | lost
  deriving DecidableEq, Repr

def mediaTypeNone : Nat := 0
def mediaTypeAudio : Nat := 1
def mediaTypeVideo : Nat := 2
def mediaTypeText : Nat := 4

namespace MtcMediaUtil

def getMediaTypesFromCallType : CallType → Nat
  | .voip => mediaTypeAudio
  | .vt => mediaTypeAudio ||| mediaTypeVideo
  | .rtt => mediaTypeAudio ||| mediaTypeText
  | .videoRtt => mediaTypeAudio ||| mediaTypeVideo ||| mediaTypeText
  | .unknown => mediaTypeNone

def getMediaTypeListFromCallType : CallType → List Nat
  | .voip => [mediaTypeAudio]
  | .vt => [mediaTypeAudio, mediaTypeVideo]
  | .rtt => [mediaTypeAudio, mediaTypeText]
  | .videoRtt => [mediaTypeAudio, mediaTypeVideo, mediaTypeText]
  | .unknown => []

def getUnusedMediaTypeListFromCallType : CallType → List Nat
  | .unknown => [mediaTypeAudio, mediaTypeVideo, mediaTypeText]
  | .voip => [mediaTypeVideo, mediaTypeText]
  | .vt => [mediaTypeText]
  | .rtt => [mediaTypeVideo]
  | .videoRtt => []

/-- A mask of several media is `TYPE_INVALID`. -/
def getSdpMediaType (eMediaType : Nat) : SdpMediaType :=
  if eMediaType = mediaTypeAudio then .audio
  else if eMediaType = mediaTypeVideo then .video
  else if eMediaType = mediaTypeText then .text
  else .invalid

end MtcMediaUtil

/-- A media of the session, with the two views that its descriptor gives. -/
structure IMedia where
  /-- `STATE_DELETED`. -/
  isDeleted : Bool
  /-- `GetMediaDescriptionExAsLocal`: the type and the port. -/
  localSdp : Option (SdpMediaType × Int)
  /-- `GetMediaDescriptionEx`, with the preconditions of the peer. -/
  remoteSdp : Option SdpMedia
  deriving DecidableEq, Repr

namespace IMedia

/-- `SdpPreconditionHelper::IsPreconditionIncludedInSdp` for a descriptor. -/
def isPreconditionIncluded (media : IMedia) : Bool :=
  media.remoteSdp.any fun remote => remote.curr.isSome

def hasMatchingRemoteMediaType (media : IMedia) (eMediaType : Nat) : Bool :=
  media.remoteSdp.any fun remote => MtcMediaUtil.getSdpMediaType eMediaType = remote.eType

/-- The media that `FormPreconditionSdp` of the helper passes over. -/
def isSkipped (media : IMedia) : Bool :=
  media.isDeleted || (media.remoteSdp.isSome && !media.isPreconditionIncluded)

/-- The type of the media line that is formed for the media. -/
def formedType (media : IMedia) : Option SdpMediaType :=
  if media.isSkipped then none else media.localSdp.map Prod.fst

/-- The type of the local description, where `GetSdpMedia` has one with a port. -/
def activeLocalType (media : IMedia) : SdpMediaType :=
  match media.isDeleted, media.localSdp with
  | false, some localSdp => if localSdp.2 ≤ 0 then .invalid else localSdp.1
  | _, _ => .invalid

end IMedia

namespace SdpPreconditionHelper

/-- `GetMediaType` for a media that is not deleted and has a port. -/
def getMediaType : SdpMediaType → Nat
  | .audio => mediaTypeAudio
  | .video => mediaTypeVideo
  | .text => mediaTypeText
  | .invalid => mediaTypeNone

def isPreconditionIncludedInSdp (lstMedias : List IMedia) (eMediaType : Nat) : Bool :=
  lstMedias.any fun media =>
    !media.isDeleted &&
      (decide (eMediaType = mediaTypeNone) || media.hasMatchingRemoteMediaType eMediaType) &&
      media.isPreconditionIncluded

end SdpPreconditionHelper

/-- The local current status of a formed media line names a direction; it is what
`HasReservedResourceInSdp` looks for. -/
def SdpMedia.announcesLocalResource (media : SdpMedia) : Bool :=
  media.curr.any fun curr => curr.localDetails.any fun detail => detail.direction ≠ .none

namespace QosStatusTable

def clearRecords (t : QosStatusTable) (eSdpMediaType : SdpMediaType) : QosStatusTable :=
  t.modifyRecords eSdpMediaType fun _ => []

def removeUnusedRecords (t : QosStatusTable) (eMediaTypes : Nat) : QosStatusTable :=
  let t := if eMediaTypes &&& mediaTypeAudio = 0 then t.clearRecords .audio else t
  let t := if eMediaTypes &&& mediaTypeVideo = 0 then t.clearRecords .video else t
  if eMediaTypes &&& mediaTypeText = 0 then t.clearRecords .text else t

/-- `UpdateStatusTableWithRemoteSdp` for a media of the session. -/
def updateStatusTableWithMedia (t : QosStatusTable) (media : IMedia) : QosStatusTable :=
  match media.remoteSdp with
  | none => t
  | some remote => t.updateStatusTableWithRemoteSdp remote

end QosStatusTable

/-- What is fixed for the session. -/
structure PreconditionContext where
  eCallType : CallType
  isRoaming : Bool
  isVoiceOnDefaultBearerSupported : Bool
  isVideoOnDefaultBearerSupported : Bool
  isTextOnDefaultBearerSupported : Bool
  isForkedSession : Bool
  deriving DecidableEq, Repr

namespace PreconditionContext

/-- The media types of the call. -/
def mediaTypes (ctx : PreconditionContext) : List Nat :=
  MtcMediaUtil.getMediaTypeListFromCallType ctx.eCallType

def isDefaultBearerAllowed (ctx : PreconditionContext) (eMediaType : Nat) : Bool :=
  if eMediaType = mediaTypeAudio then !ctx.isRoaming && ctx.isVoiceOnDefaultBearerSupported
  else if eMediaType = mediaTypeVideo then ctx.isVideoOnDefaultBearerSupported
  else if eMediaType = mediaTypeText then ctx.isTextOnDefaultBearerSupported
  else false

end PreconditionContext

/-- The manager with the `QosInfo` of the session and the media of the session. -/
structure MtcPreconditionManager where
  eAudioStatus : QosStatus
  eVideoStatus : QosStatus
  eTextStatus : QosStatus
  statusTable : QosStatusTable
  /-- `QosInfo::IsPreconditionSupported`. -/
  bSupportingPrecondition : Bool
  /-- The timer WAIT_AVAILABLE_AFTER_W2L_HANDOVER, which only a handover from WLAN starts. -/
  bWaitAvailableAfterW2LHandover : Bool
  bOnWlan : Bool
  bLocalResourceConfirmedInitially : Bool
  lstMedias : List IMedia
  /-- The media that an SDP has announced as reserved. -/
  announced : List SdpMediaType
  deriving DecidableEq, Repr

namespace MtcPreconditionManager

variable (ctx : PreconditionContext)

def getQosStatus (x : MtcPreconditionManager) (eMediaType : Nat) : QosStatus :=
  if eMediaType = mediaTypeAudio then x.eAudioStatus
  else if eMediaType = mediaTypeVideo then x.eVideoStatus
  else if eMediaType = mediaTypeText then x.eTextStatus
  else .idle

def setQosStatus (x : MtcPreconditionManager) (eStatus : QosStatus) (eMediaType : Nat) :
    MtcPreconditionManager :=
  if eMediaType = mediaTypeAudio then { x with eAudioStatus := eStatus }
  else if eMediaType = mediaTypeVideo then { x with eVideoStatus := eStatus }
  else if eMediaType = mediaTypeText then { x with eTextStatus := eStatus }
  else x

def isNeedToUpdateQosStatus : QosStatus → QosStatus → Bool
  | .idle, .available => true
  | .available, .lost => true
  | .lost, .lost => false
  | .lost, _ => true
  | _, _ => false

def isLocalResourceReservedByMediaType (x : MtcPreconditionManager) (eMediaType : Nat) : Bool :=
  if x.bOnWlan then true
  else ctx.isDefaultBearerAllowed eMediaType ||
    decide (x.getQosStatus eMediaType = .available)

def updateLocalCurrentStatus (x : MtcPreconditionManager) (eSdpMediaType : SdpMediaType)
    (bLocalQosEnabled : Bool) : MtcPreconditionManager :=
  { x with
    statusTable := x.statusTable.updateLocalCurrentStatus eSdpMediaType bLocalQosEnabled }

def initializeStatusForUnusedLostQos (x : MtcPreconditionManager) : MtcPreconditionManager :=
  (MtcMediaUtil.getUnusedMediaTypeListFromCallType ctx.eCallType).foldl
    (fun x eMediaType =>
      if x.getQosStatus eMediaType = .lost then x.setQosStatus .idle eMediaType else x)
    x

/-- The branch for a dialog that is not confirmed. -/
def createStatusRecords (x : MtcPreconditionManager) (eMediaType : Nat) :
    MtcPreconditionManager :=
  if eMediaType = mediaTypeNone then x
  else if !(x.statusTable.getRecords (MtcMediaUtil.getSdpMediaType eMediaType)).isEmpty then x
  else
    let bLocalReserved := x.isLocalResourceReservedByMediaType ctx eMediaType ||
      x.bWaitAvailableAfterW2LHandover
    { x with
      statusTable :=
        (x.statusTable.initializeRecords (MtcMediaUtil.getSdpMediaType eMediaType)
          ).updateLocalCurrentStatus (MtcMediaUtil.getSdpMediaType eMediaType) bLocalReserved
      bLocalResourceConfirmedInitially :=
        if ctx.isForkedSession then x.bLocalResourceConfirmedInitially else bLocalReserved }

/-! ### The events -/

def onQosStatusChanged (x : MtcPreconditionManager) (eMediaType : Nat) (eStatus : QosStatus) :
    MtcPreconditionManager :=
  if !isNeedToUpdateQosStatus (x.getQosStatus eMediaType) eStatus then x
  else
    let x := (x.setQosStatus eStatus eMediaType).initializeStatusForUnusedLostQos ctx
    x.updateLocalCurrentStatus (MtcMediaUtil.getSdpMediaType eMediaType)
      (x.isLocalResourceReservedByMediaType ctx eMediaType)

/-- `OnRatChanged` from LTE to WLAN. -/
def onRatChangedToWlan (x : MtcPreconditionManager) : MtcPreconditionManager :=
  if x.bOnWlan then x
  else { x with bOnWlan := true }.updateLocalCurrentStatus
    (MtcMediaUtil.getSdpMediaType (MtcMediaUtil.getMediaTypesFromCallType ctx.eCallType)) true

/-- The step of `SetLocalResourceAvailable` for a media of the call. -/
def setMediaAvailable (x : MtcPreconditionManager) (eMediaType : Nat) : MtcPreconditionManager :=
  if x.getQosStatus eMediaType = .available then x
  else (x.setQosStatus .available eMediaType).updateLocalCurrentStatus
    (MtcMediaUtil.getSdpMediaType eMediaType) true

def onForceAvailableTimerExpired (x : MtcPreconditionManager) : MtcPreconditionManager :=
  ctx.mediaTypes.foldl setMediaAvailable x

/-- The records that `FormPreconditionSdp` creates for a media of the session. -/
def createRecordsForLocal (x : MtcPreconditionManager) (media : IMedia) :
    MtcPreconditionManager :=
  x.createStatusRecords ctx (SdpPreconditionHelper.getMediaType media.activeLocalType)

/-- `SdpPreconditionHelper::FormPreconditionSdp` for a media of the session. -/
def formMedia (bUseConf : Bool) (x : MtcPreconditionManager) (media : IMedia) :
    MtcPreconditionManager :=
  if media.isSkipped then x
  else
    match media.localSdp with
    | none => x
    | some localSdp =>
      { x with
        statusTable := (x.statusTable.formAttributes localSdp.1 localSdp.2 bUseConf).2
        announced :=
          if (x.statusTable.formAttributes localSdp.1 localSdp.2 bUseConf
              ).1.announcesLocalResource then
            localSdp.1 :: x.announced
          else x.announced }

def formPreconditionSdp (x : MtcPreconditionManager) (bFailure bUseConf : Bool) :
    MtcPreconditionManager :=
  if !x.bSupportingPrecondition || bFailure then x
  else x.lstMedias.foldl (formMedia bUseConf) (x.lstMedias.foldl (createRecordsForLocal ctx) x)

def createStatusRecordsWithActiveMediaTypes (x : MtcPreconditionManager) :
    MtcPreconditionManager :=
  let x := ctx.mediaTypes.foldl (createStatusRecords ctx) x
  { x with
    statusTable := x.statusTable.removeUnusedRecords
      (MtcMediaUtil.getMediaTypesFromCallType ctx.eCallType) }

/-- `UpdateQosAttributesFromRemoteSdp`. -/
def onSdpReceived (x : MtcPreconditionManager) : MtcPreconditionManager :=
  let x := x.createStatusRecordsWithActiveMediaTypes ctx
  if SdpPreconditionHelper.isPreconditionIncludedInSdp x.lstMedias mediaTypeNone then
    { x with
      statusTable := x.lstMedias.foldl QosStatusTable.updateStatusTableWithMedia x.statusTable }
  else x

def isLocalResourceConfirmationRequired (x : MtcPreconditionManager) : Bool :=
  if !x.bSupportingPrecondition then false
  else if x.bLocalResourceConfirmedInitially then false
  else ctx.mediaTypes.any fun eMediaType =>
    SdpPreconditionHelper.isPreconditionIncludedInSdp x.lstMedias eMediaType &&
      !x.statusTable.isLocalResourceConfirmed (MtcMediaUtil.getSdpMediaType eMediaType) &&
      x.isLocalResourceReservedByMediaType ctx eMediaType

end MtcPreconditionManager

/-- What happens to the session; an SDP comes with the media that the session has then. -/
inductive PreconditionEvent where
  | qosStatusChanged (eMediaType : Nat) (eStatus : QosStatus)
  | ratChangedToWlan
  | sdpSent (lstMedias : List IMedia) (bFailure bUseConf : Bool)
  | sdpReceived (lstMedias : List IMedia)
  | forceAvailableTimerExpired

namespace MtcPreconditionManager

variable (ctx : PreconditionContext)

def next (x : MtcPreconditionManager) : PreconditionEvent → MtcPreconditionManager
  | .qosStatusChanged eMediaType eStatus => x.onQosStatusChanged ctx eMediaType eStatus
  | .ratChangedToWlan => x.onRatChangedToWlan ctx
  | .sdpSent lstMedias bFailure bUseConf =>
      { x with lstMedias := lstMedias }.formPreconditionSdp ctx bFailure bUseConf
  | .sdpReceived lstMedias => { x with lstMedias := lstMedias }.onSdpReceived ctx
  | .forceAvailableTimerExpired => x.onForceAvailableTimerExpired ctx

/-- The runs of a session from its creation; a forked session finds the flag of the
original one. -/
def sessions : System MtcPreconditionManager PreconditionEvent where
  Init x := x.statusTable = .new ∧ x.bWaitAvailableAfterW2LHandover = false ∧
    x.announced = [] ∧ x.lstMedias = [] ∧
    (ctx.isForkedSession = false → x.bLocalResourceConfirmedInitially = false)
  Step x e x' := x' = x.next ctx e

end MtcPreconditionManager

end ImsStack.Precondition
