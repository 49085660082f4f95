import ImsStack.Media.AudioProfile

/-!
The payloads of a video profile, and the parameters that the format of one has.
-/

namespace ImsStack.Media

open ImsStack.Platform

/-- `VIDEO_RESOLUTION`; `LS` is a landscape and `PR` a portrait. -/
inductive VideoResolution
  | invalid
  | qcifLs
  | qcifPr
  | qvgaLs
  | qvgaPr
  | vgaLs
  | vgaPr
  | cifLs
  | cifPr
  | sqcifLs
  | sqcifPr
  | sifLs
  | sifPr
  | hdLs
  | hdPr
  | fhdLs
  | fhdPr
  | cust
  | notUsed
deriving DecidableEq

namespace VideoProfileUtil

def getWidthHeightFromResolution : VideoResolution → Nat × Nat
  | .qcifPr => (144, 176)
  | .qvgaLs => (320, 240)
  | .qvgaPr => (240, 320)
  | .vgaLs => (640, 480)
  | .vgaPr => (480, 640)
  | .qcifLs => (176, 144)
  | .cifLs => (352, 288)
  | .cifPr => (288, 352)
  | .sqcifLs => (128, 96)
  | .sqcifPr => (96, 128)
  | .sifLs => (352, 240)
  | .sifPr => (240, 352)
  | .hdLs => (1280, 720)
  | .hdPr => (720, 1280)
  | .fhdLs => (1920, 1080)
  | .fhdPr => (1080, 1920)
  | _ => (0, 0)

def pixels (eResolution : VideoResolution) : Nat :=
  (getWidthHeightFromResolution eResolution).1 * (getWidthHeightFromResolution eResolution).2

def compareResolution (eResolution1 eResolution2 : VideoResolution) : Int :=
  if pixels eResolution1 > pixels eResolution2 then 1
  else if pixels eResolution1 < pixels eResolution2 then -1
  else 0

end VideoProfileUtil

namespace VideoProfile

/-- `VideoFmtp`, with the fields of `AvcFmtp` and those of `HevcFmtp` behind it: the payload type
says which of them the format has. -/
structure VideoFmtp where
  resolution : VideoResolution := .invalid
  bitrate : Int := 0
  frameRate : Int := 0
  as : Int := 0
  profile : Int := 0
  level : Int := 0
  packetizationMode : Int := 1
  spropParam : NullString := none
  visiblePacketizationMode : Bool := false
  visibleSpropParam : Bool := false
  profileLevelId : NullString := none
  visibleProfileLevelId : Bool := false
  visibleProfile : Bool := false
  visibleLevel : Bool := false
deriving DecidableEq

structure RtcpFbAttributes where
  trrSupported : Bool := false
  trrInt : Int := 0
  nackSupported : Bool := false
  tmmbrSupported : Bool := false
  tmmbrSmaxPr : Int := -1
  pliSupported : Bool := false
  firSupported : Bool := false
deriving DecidableEq

/-- The pointer to the format may be null. -/
structure Payload where
  rtpMap : RtpMap := {}
  fmtp : Option VideoFmtp := none
  includeImageAttr : Bool := false
  includeFrameSize : Bool := false
  imageAttr : NullString := none
  rtcpFbAttr : RtcpFbAttributes := {}

end VideoProfile

/-- The payloads of a profile; a pointer may be null. -/
abbrev VideoPayloadList := List (Option VideoProfile.Payload)

def isAvcName (strCodecName : NullString) : Bool := strCodecName.equalsIgnoreCaseLiteral "H264"

def isHevcName (strCodecName : NullString) : Bool := strCodecName.equalsIgnoreCaseLiteral "H265"

namespace VideoProfile.Payload

def isAvc (payload : Payload) : Bool := isAvcName payload.rtpMap.payloadType

def isHevc (payload : Payload) : Bool := isHevcName payload.rtpMap.payloadType

/-- `operator=` to a new payload.  The format is copied for the codecs that are known. -/
def copy (payload : Payload) : Payload :=
  { payload with fmtp := if payload.isAvc || payload.isHevc then payload.fmtp else none }

def setPayloadNumber (payload : Payload) (nPayloadNumber : Nat) : Payload :=
  { payload with rtpMap := { payload.rtpMap with payloadNumber := nPayloadNumber } }

def setResolution (payload : Payload) (eResolution : VideoResolution) : Payload :=
  { payload with fmtp := payload.fmtp.map fun fmtp => { fmtp with resolution := eResolution } }

end VideoProfile.Payload

/-- The index is -1 where no payload is negotiated. -/
structure VideoProfile where
  payloads : VideoPayloadList := []
  negotiatedPayloadIndex : Int := -1
  supportAvpf : Bool := false

namespace VideoProfile

def payloadAt (profile : VideoProfile) (nIndex : Nat) : Option Payload :=
  profile.payloads[nIndex]?.join

def addPayload (profile : VideoProfile) (payload : Payload) : VideoProfile :=
  { profile with payloads := profile.payloads ++ [some payload] }

end VideoProfile

end ImsStack.Media
