import ImsStack.Platform.NullString
import Mathlib.Data.BitVec

/-!
The payloads of an audio profile, and the parameters that the format of one has.
-/

namespace ImsStack.Media

open ImsStack.Platform

/-- `MediaBaseProfile::RtpMap`. -/
structure RtpMap where
  payloadNumber : Nat := 0
  payloadType : NullString := none
  samplingRate : Nat := 0
  channel : Int := 0

namespace AudioProfile

/-- What the formats of AMR and EVS have in common. -/
structure AudioFmtp where
  modeSetList : BitVec 32 := 0
  defaultRtpModeSet : BitVec 32 := 0
  modeChangeCapability : Int := 2
  modeChangePeriod : Int := 1
  modeChangeNeighbor : Int := 0
  maxRed : Int := 0
  dtx : Bool := true
  visibleModeSet : Bool := false
  visibleModeChangeCapability : Bool := false
  visibleModeChangePeriod : Bool := false
  visibleModeChangeNeighbor : Bool := false
  visibleMaxRed : Bool := false
  visibleDtx : Bool := false
deriving DecidableEq

structure AmrFmtp extends AudioFmtp where
  octetAlign : Int := 0
  visibleOctetAlign : Bool := false
deriving DecidableEq

structure EvsFmtp extends AudioFmtp where
  hfOnly : BitVec 32 := 0
  evsModeSwitch : BitVec 32 := 0
  brList : BitVec 32 := 0
  brSend : Int := 0
  brRecv : Int := 0
  bwList : BitVec 32 := 0
  bwSend : Int := 0
  bwRecv : Int := 0
  cmr : Int := 0
  chAwRecv : Int := 0
  receivedChAwRecv : Int := 0
  visibleHfOnly : Bool := false
  visibleEvsModeSwitch : Bool := false
  visibleCmr : Bool := false
  visibleChannelAwMode : Bool := false
  visibleBrList : Bool := true
  visibleBwList : Bool := true
  sendCmr : Bool := false
deriving DecidableEq

inductive Fmtp
  | amr (fmtp : AmrFmtp)
  | evs (fmtp : EvsFmtp)
  | telephoneEvent (events : NullString)
deriving DecidableEq

/-- The pointer to the format may be null. -/
structure Payload where
  rtpMap : RtpMap
  fmtp : Option Fmtp := none

namespace Payload

/-- The format of a payload of AMR, which is no other. -/
def amrFmtp (payload : Payload) : Option AmrFmtp :=
  match payload.fmtp with
  | some (.amr fmtp) => some fmtp
  | _ => none

/-- The format of a payload of EVS, which is no other. -/
def evsFmtp (payload : Payload) : Option EvsFmtp :=
  match payload.fmtp with
  | some (.evs fmtp) => some fmtp
  | _ => none

end Payload

end AudioProfile

/-- The name of one of the codecs that the searches for AMR look at. -/
def isAmrName (strCodecName : NullString) : Bool :=
  strCodecName.equalsIgnoreCaseLiteral "AMR" || strCodecName.equalsIgnoreCaseLiteral "AMR-WB"

end ImsStack.Media
