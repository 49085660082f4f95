import ImsStack.Media.VideoProfile

/-!
The video payload that is negotiated from the payloads of the local and of the peer profile.

A pointer to a payload of a profile is its index.  A function returns none where the source would
follow a null pointer.
-/

namespace ImsStack.Media

open ImsStack.Platform VideoProfile

namespace VideoProfileNegotiator

/-- The level of the negotiated format; the one of H264 has an id with it. -/
def negotiateLevel (avc : Bool) (pNegoFmtp pPeerFmtp : VideoFmtp) : VideoFmtp :=
  if pNegoFmtp.level > pPeerFmtp.level then
    { pNegoFmtp with
      profileLevelId := if avc then pPeerFmtp.profileLevelId else pNegoFmtp.profileLevelId
      level := pPeerFmtp.level }
  else pNegoFmtp

def negotiateVideoFmtp (avc : Bool) (pNegoFmtp pPeerFmtp : VideoFmtp) : VideoFmtp :=
  { negotiateLevel avc pNegoFmtp pPeerFmtp with
    resolution :=
      if pPeerFmtp.resolution ≠ .notUsed ∧
          VideoProfileUtil.compareResolution pNegoFmtp.resolution pPeerFmtp.resolution > 0 then
        pPeerFmtp.resolution
      else pNegoFmtp.resolution
    packetizationMode := pPeerFmtp.packetizationMode }

/-- A copy of the local payload with the number of the one of the peer. -/
def makeNegotiatedPayload (pLocalPayload pPeerPayload : Payload) : Option Payload :=
  let pNegoPayload :=
    pLocalPayload.copy.setPayloadNumber pPeerPayload.rtpMap.payloadNumber
  if pLocalPayload.isAvc || pLocalPayload.isHevc then
    match pNegoPayload.fmtp, pPeerPayload.fmtp with
    | some pNegoFmtp, some pPeerFmtp =>
      some { pNegoPayload with
        fmtp := some (negotiateVideoFmtp pLocalPayload.isAvc pNegoFmtp pPeerFmtp) }
    | _, _ => none
  else some pNegoPayload

def getNegotiatedResolution : Option Payload → VideoResolution
  | none => .invalid
  | some pPayload =>
    if pPayload.isAvc || pPayload.isHevc then
      match pPayload.fmtp with
      | some pFmtp => pFmtp.resolution
      | none => .notUsed
    else .notUsed

/-- A local payload and one of the peer. -/
structure PayloadPair where
  nLocalIndex : Nat
  nPeerIndex : Nat
deriving DecidableEq

/-- What comes of two payloads: the one of the peer, which may have been given a resolution, the
pair that is kept in case no other matches, and the negotiated payload where they match. -/
structure PairOutcome where
  pPeerPayload : Payload
  temp : Option PayloadPair
  negotiated : Option Payload

section pair

variable (pair : PayloadPair) (pLocalPayload pPeerPayload : Payload) (temp : Option PayloadPair)

/-- The two do not match; the first such pair is kept. -/
def keepFirst : PairOutcome := { pPeerPayload, temp := temp.or (some pair), negotiated := none }

/-- The end of `NegotiateAvc` and of `NegotiateHevc`. -/
def matchResolution (pLocalFmtp pPeerFmtp : VideoFmtp) : Option PairOutcome :=
  if pLocalFmtp.resolution ≠ pPeerFmtp.resolution then some (keepFirst pair pPeerPayload temp)
  else (makeNegotiatedPayload pLocalPayload pPeerPayload).map fun pNegoPayload =>
    { pPeerPayload, temp, negotiated := some pNegoPayload }

/-- A local payload of H264 has the level and the resolution of the peer. -/
def findsLevel (pPeerFmtp : VideoFmtp) : VideoPayloadList → Option Bool
  | [] => some false
  | none :: _ => none
  | some pPotentialPayload :: payloads =>
    if pPotentialPayload.isAvc then
      match pPotentialPayload.fmtp with
      | none => none
      | some pPotentialFmtp =>
        if pPotentialFmtp.level = pPeerFmtp.level ∧
            pPotentialFmtp.resolution = pPeerFmtp.resolution ∧ pPeerFmtp.resolution ≠ .notUsed then
          some true
        else findsLevel pPeerFmtp payloads
    else findsLevel pPeerFmtp payloads

/-- A local payload is passed over for one behind it with the level of the peer. -/
def passesOver (pLocalProfile : VideoPayloadList) (pLocalFmtp pPeerFmtp : VideoFmtp) :
    Option Bool :=
  if pLocalFmtp.level = pPeerFmtp.level then some false
  else findsLevel pPeerFmtp (pLocalProfile.drop pair.nLocalIndex)

def negotiateAvc (pLocalProfile : VideoPayloadList) : Option PairOutcome :=
  match pLocalPayload.fmtp, pPeerPayload.fmtp with
  | some pLocalFmtp, some pPeerFmtp =>
    if pLocalFmtp.profile ≠ pPeerFmtp.profile ∨ pLocalFmtp.level < pPeerFmtp.level then
      some (keepFirst pair pPeerPayload temp)
    else
      match passesOver pair pLocalProfile pLocalFmtp pPeerFmtp with
      | none => none
      | some true => some { pPeerPayload, temp, negotiated := none }
      | some false => matchResolution pair pLocalPayload pPeerPayload temp pLocalFmtp pPeerFmtp
  | _, _ => some { pPeerPayload, temp, negotiated := none }

/-- The resolution that a payload of the peer without one is given. -/
def assumedResolution (pNegotiatedProfile : VideoProfile) (pLocalFmtp : VideoFmtp) :
    VideoResolution :=
  let eTempResolution := getNegotiatedResolution
    (if pNegotiatedProfile.negotiatedPayloadIndex > 0 then
      pNegotiatedProfile.payloadAt pNegotiatedProfile.negotiatedPayloadIndex.toNat
    else pNegotiatedProfile.payloadAt 0)
  if eTempResolution ≠ .notUsed ∧ eTempResolution ≠ .invalid then eTempResolution
  else pLocalFmtp.resolution

def negotiateHevc (pNegotiatedProfile : VideoProfile) : Option PairOutcome :=
  match pLocalPayload.fmtp, pPeerPayload.fmtp with
  | some pLocalFmtp, some pPeerFmtp =>
    if pLocalFmtp.level < pPeerFmtp.level then some (keepFirst pair pPeerPayload temp)
    else if pPeerFmtp.resolution = .notUsed then
      let eResolution := assumedResolution pNegotiatedProfile pLocalFmtp
      matchResolution pair pLocalPayload (pPeerPayload.setResolution eResolution) temp pLocalFmtp
        { pPeerFmtp with resolution := eResolution }
    else matchResolution pair pLocalPayload pPeerPayload temp pLocalFmtp pPeerFmtp
  | _, _ => some { pPeerPayload, temp, negotiated := none }

def negotiatePair (pLocalProfile : VideoPayloadList) (pNegotiatedProfile : VideoProfile) :
    Option PairOutcome :=
  if pPeerPayload.isAvc && pLocalPayload.isAvc then
    negotiateAvc pair pLocalPayload pPeerPayload temp pLocalProfile
  else if pPeerPayload.isHevc && pLocalPayload.isHevc then
    negotiateHevc pair pLocalPayload pPeerPayload temp pNegotiatedProfile
  else some { pPeerPayload, temp, negotiated := none }

end pair

/-- The variables of the two loops.  `pLocalPayload` and `pPeerPayload` are those that the loops
assign; they keep their last values behind them. -/
structure Search where
  pLocalPayload : Option Payload := none
  pPeerPayload : Option Payload := none
  temp : Option PayloadPair := none
  peerPayloads : VideoPayloadList
  pNegotiatedProfile : VideoProfile

namespace Search

/-- The two payloads have been compared. -/
def compared (search : Search) (nPeerIndex : Nat) (pLocalPayload : Payload)
    (outcome : PairOutcome) : Search :=
  { search with
    pLocalPayload := some pLocalPayload
    pPeerPayload := some outcome.pPeerPayload
    temp := outcome.temp
    peerPayloads := search.peerPayloads.set nPeerIndex (some outcome.pPeerPayload) }

/-- The two payloads match. -/
def matched (search : Search) (pair : PayloadPair) (pNegoPayload : Payload) : Search :=
  { search with
    temp := some pair
    pNegotiatedProfile := search.pNegotiatedProfile.addPayload pNegoPayload }

end Search

section search

variable (pLocalProfile : VideoPayloadList)

/-- The loop over the local payloads from an index on. -/
def negotiateLocals (nPeerIndex nLocalIndex : Nat) :
    VideoPayloadList → Payload → Search → Option Search
  | [], _, search => some search
  | none :: payloads, pPeerPayload, search =>
    negotiateLocals nPeerIndex (nLocalIndex + 1) payloads pPeerPayload
      { search with pLocalPayload := none }
  | some pLocalPayload :: payloads, pPeerPayload, search =>
    match negotiatePair ⟨nLocalIndex, nPeerIndex⟩ pLocalPayload pPeerPayload search.temp
        pLocalProfile search.pNegotiatedProfile with
    | none => none
    | some outcome =>
      let search := search.compared nPeerIndex pLocalPayload outcome
      match outcome.negotiated with
      | some pNegoPayload => some (search.matched ⟨nLocalIndex, nPeerIndex⟩ pNegoPayload)
      | none =>
        negotiateLocals nPeerIndex (nLocalIndex + 1) payloads outcome.pPeerPayload search

/-- The loop over the payloads of the peer from an index on. -/
def negotiatePeers (nPeerIndex : Nat) : VideoPayloadList → Search → Option Search
  | [], search => some search
  | payload :: payloads, search =>
    if search.pNegotiatedProfile.payloads.length > 0 then some search
    else
      match payload with
      | none => negotiatePeers (nPeerIndex + 1) payloads { search with pPeerPayload := none }
      | some pPeerPayload =>
        match negotiateLocals pLocalProfile nPeerIndex 0 pLocalProfile pPeerPayload
            { search with pPeerPayload := some pPeerPayload } with
        | none => none
        | some search => negotiatePeers (nPeerIndex + 1) payloads search

end search

/-- What `NegotiateRtcpFb` sets where the two payloads support a feedback. -/
def mergeRtcpFb (avc : Bool) (objLocal objPeer objNego : RtcpFbAttributes) : RtcpFbAttributes :=
  let trr := avc && objLocal.trrSupported && objPeer.trrSupported
  { objNego with
    trrSupported := trr || objNego.trrSupported
    trrInt := if trr then objPeer.trrInt else objNego.trrInt
    nackSupported := objLocal.nackSupported && objPeer.nackSupported || objNego.nackSupported
    tmmbrSupported := objLocal.tmmbrSupported && objPeer.tmmbrSupported || objNego.tmmbrSupported
    pliSupported := objLocal.pliSupported && objPeer.pliSupported || objNego.pliSupported
    firSupported := objLocal.firSupported && objPeer.firSupported || objNego.firSupported }

def negotiateRtcpFb (supportAvpf : Bool) (pLocalPayload pPeerPayload : Option Payload)
    (pNegoPayload : Payload) : Payload :=
  match pLocalPayload, pPeerPayload with
  | some pLocalPayload, some pPeerPayload =>
    if supportAvpf then
      { pNegoPayload with
        rtcpFbAttr := mergeRtcpFb pLocalPayload.isAvc pLocalPayload.rtcpFbAttr
          pPeerPayload.rtcpFbAttr pNegoPayload.rtcpFbAttr }
    else pNegoPayload
  | _, _ => pNegoPayload

/-- The negotiated local payload takes the number of a payload of the peer. -/
def negotiatePayloadNumber (pLocalProfile : VideoProfile) (pPeerPayload : Option Payload) :
    VideoProfile :=
  match pPeerPayload with
  | none => pLocalProfile
  | some pPeerPayload =>
    if pLocalProfile.negotiatedPayloadIndex ≠ -1 then
      { pLocalProfile with
        payloads := pLocalProfile.payloads.modify pLocalProfile.negotiatedPayloadIndex.toNat
          (Option.map fun payload =>
            payload.setPayloadNumber pPeerPayload.rtpMap.payloadNumber) }
    else pLocalProfile

/-- What `NegotiatePayload` leaves; `nNegotiatedMaxFrameRate` is the one of `Negotiate`. -/
structure NegotiatedVideo where
  negotiated : Bool
  pLocalProfile : VideoProfile
  pPeerProfile : VideoProfile
  pNegotiatedProfile : VideoProfile
  nNegotiatedMaxFrameRate : Int

section payload

variable (bIsOfferReceived : Bool) (pLocalProfile pPeerProfile : VideoProfile)
  (nNegotiatedMaxFrameRate : Int) (search : Search)

/-- The local profile behind `SetNegotiatedPayloadIndex` and `NegotiatePayloadNumber`. -/
def numberedLocalProfile : VideoProfile :=
  if pPeerProfile.negotiatedPayloadIndex = -1 then
    let pLocalProfile := { pLocalProfile with
      negotiatedPayloadIndex := (search.temp.map fun pair => (pair.nLocalIndex : Int)).getD (-1) }
    if bIsOfferReceived then negotiatePayloadNumber pLocalProfile search.pPeerPayload
    else pLocalProfile
  else pLocalProfile

/-- The profile of the peer behind `SetNegotiatedPayloadIndex`. -/
def indexedPeerProfile : VideoProfile :=
  { pPeerProfile with
    payloads := search.peerPayloads
    negotiatedPayloadIndex :=
      if pPeerProfile.negotiatedPayloadIndex = -1 then
        (search.temp.map fun pair => (pair.nPeerIndex : Int)).getD (-1)
      else pPeerProfile.negotiatedPayloadIndex }

/-- The end of `NegotiatePayload`, where the negotiated profile has a payload. -/
def concludePayload (pNegotiatedProfile : VideoProfile) : Option NegotiatedVideo :=
  match pNegotiatedProfile.payloadAt 0 with
  | none => none
  | some pNegotiatedPayload => some {
      negotiated := true
      pLocalProfile := numberedLocalProfile bIsOfferReceived pLocalProfile pPeerProfile search
      pPeerProfile := indexedPeerProfile pPeerProfile search
      pNegotiatedProfile := { pNegotiatedProfile with
        payloads := pNegotiatedProfile.payloads.set 0 (some (negotiateRtcpFb
          pNegotiatedProfile.supportAvpf search.pLocalPayload search.pPeerPayload
          pNegotiatedPayload)) }
      nNegotiatedMaxFrameRate :=
        match pNegotiatedPayload.fmtp with
        | none => nNegotiatedMaxFrameRate
        | some pNegotiatedFmtp =>
          if pNegotiatedFmtp.frameRate > nNegotiatedMaxFrameRate then pNegotiatedFmtp.frameRate
          else nNegotiatedMaxFrameRate }

/-- The end of `NegotiatePayload`, where no pair has been found or kept. -/
def failPayload : NegotiatedVideo where
  negotiated := false
  pLocalProfile := pLocalProfile
  pPeerProfile := { pPeerProfile with payloads := search.peerPayloads }
  pNegotiatedProfile := search.pNegotiatedProfile
  nNegotiatedMaxFrameRate := nNegotiatedMaxFrameRate

/-- The payload of the pair that has been kept. -/
def makeKeptPayload (pair : PayloadPair) : Option (Option Payload) :=
  match pLocalProfile.payloadAt pair.nLocalIndex, search.peerPayloads[pair.nPeerIndex]?.join with
  | some pTempPayload, some pMatchedPeerPayload =>
    (makeNegotiatedPayload pTempPayload pMatchedPeerPayload).map some
  | _, _ => some none

/-- `NegotiatePayload` behind the two loops. -/
def settlePayload : Option NegotiatedVideo :=
  if search.pNegotiatedProfile.payloads.length > 0 then
    concludePayload bIsOfferReceived pLocalProfile pPeerProfile nNegotiatedMaxFrameRate search
      search.pNegotiatedProfile
  else
    match search.temp with
    | none => some (failPayload pLocalProfile pPeerProfile nNegotiatedMaxFrameRate search)
    | some pair =>
      match makeKeptPayload pLocalProfile search pair with
      | none => none
      | some none =>
        some (failPayload pLocalProfile pPeerProfile nNegotiatedMaxFrameRate search)
      | some (some pNegotiatedPayload) =>
        concludePayload bIsOfferReceived pLocalProfile pPeerProfile nNegotiatedMaxFrameRate search
          { search.pNegotiatedProfile.addPayload pNegotiatedPayload with
            negotiatedPayloadIndex := 0 }

def negotiatePayload (pNegotiatedProfile : VideoProfile) : Option NegotiatedVideo :=
  match negotiatePeers pLocalProfile.payloads 0 pPeerProfile.payloads
      { peerPayloads := pPeerProfile.payloads, pNegotiatedProfile } with
  | none => none
  | some search =>
    settlePayload bIsOfferReceived pLocalProfile pPeerProfile nNegotiatedMaxFrameRate search

end payload

end VideoProfileNegotiator

end ImsStack.Media
