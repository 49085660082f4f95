import ImsStack.Media.AmrSearch

/-!
The payload that is negotiated for an offer, and the numbers that the local payloads take then.
-/

namespace ImsStack.Media

open ImsStack.Platform AudioProfile

/-- The payloads of a profile; a pointer may be null. -/
abbrev PayloadList := List (Option Payload)

namespace PayloadList

def findPayload (payloads : PayloadList) (strPayloadType : NullString) (nSamplingRate : Nat) :
    Option Nat :=
  payloads.findIdx? fun payload => payload.any fun payload =>
    payload.rtpMap.payloadType.equalsIgnoreCase strPayloadType &&
      payload.rtpMap.samplingRate == nSamplingRate

/-- The number of the payload at an index. -/
def numberAt (payloads : PayloadList) (i : Nat) : Option Nat :=
  payloads[i]?.join.map fun payload => payload.rtpMap.payloadNumber

def isPayloadNumberUsed (payloads : PayloadList) (nPayloadNum : Nat) : Bool :=
  payloads.any fun payload => payload.any fun payload =>
    payload.rtpMap.payloadNumber == nPayloadNum

def setPayloadNumber (payloads : PayloadList) (i n : Nat) : PayloadList :=
  payloads.modify i (Option.map fun payload =>
    { payload with rtpMap := { payload.rtpMap with payloadNumber := n } })

/-- The first dynamic number that is not used. -/
def freeDynamicNumber (payloads : PayloadList) : Option Nat :=
  (List.range' 96 32).find? fun nDynamicPt => !payloads.isPayloadNumberUsed nDynamicPt

end PayloadList

namespace AudioProfileNegotiator

def isEvsName (strCodecName : NullString) : Bool := strCodecName.equalsIgnoreCaseLiteral "EVS"

def isPcmName (strCodecName : NullString) : Bool :=
  strCodecName.equalsIgnoreCaseLiteral "PCMU" || strCodecName.equalsIgnoreCaseLiteral "PCMA"

def isTelephoneEventName (strCodecName : NullString) : Bool :=
  strCodecName.equalsIgnoreCaseLiteral "telephone-event"

def findPcmInProfile (pProfile : PayloadList) (pPayload : Payload) : Bool :=
  pProfile.any fun pComparedPayload => pComparedPayload.any fun pComparedPayload =>
    isPcmName pComparedPayload.rtpMap.payloadType &&
      pComparedPayload.rtpMap.payloadType.equalsIgnoreCase pPayload.rtpMap.payloadType &&
      pComparedPayload.rtpMap.samplingRate == pPayload.rtpMap.samplingRate

section negotiate

variable (bIsOfferReceived : Bool)

-- Whether `FindMatchingEvsPayload` and `NegotiateEvs` succeed for the payload of the peer at an
-- index: the formats of EVS do not matter to the numbers.
variable (findMatchingEvsPayload negotiateEvs : Nat → Bool)

variable (pLocalProfile : PayloadList) (bAmrPayloadFormatRelaxedMatching : Bool)

/-- `NegotiateAudioPayload`, the loop from index `i` on.  The payload that is negotiated has the
`RtpMap` of the one of the peer. -/
def negotiateAudioPayload (i : Nat) : PayloadList → Option RtpMap
  | [] => none
  | none :: payloads => negotiateAudioPayload (i + 1) payloads
  | some pPeerPayload :: payloads =>
    if isAmrName pPeerPayload.rtpMap.payloadType then
      if (findAmrInProfile bIsOfferReceived pLocalProfile pPeerPayload
          bAmrPayloadFormatRelaxedMatching {}).1 then some pPeerPayload.rtpMap
      else negotiateAudioPayload (i + 1) payloads
    else if isEvsName pPeerPayload.rtpMap.payloadType then
      if findMatchingEvsPayload i then
        if negotiateEvs i then some pPeerPayload.rtpMap else none
      else negotiateAudioPayload (i + 1) payloads
    else if isPcmName pPeerPayload.rtpMap.payloadType then
      if findPcmInProfile pLocalProfile pPeerPayload then some pPeerPayload.rtpMap
      else negotiateAudioPayload (i + 1) payloads
    else negotiateAudioPayload (i + 1) payloads

end negotiate

/-- The telephone event that is negotiated: the first with the negotiated rate, where that is
positive as a signed number, or else the first with a lower rate. -/
def negotiateTelephoneEvent (nNegotiatedSamplingRate : Nat) (pPeerProfile : PayloadList) :
    Option RtpMap :=
  let telephoneEvents := (pPeerProfile.filterMap fun payload => payload.map Payload.rtpMap).filter
    fun rtpMap => isTelephoneEventName rtpMap.payloadType
  let sameRate := if 0 < nNegotiatedSamplingRate ∧ nNegotiatedSamplingRate < 0x80000000 then
      telephoneEvents.find? fun rtpMap => rtpMap.samplingRate == nNegotiatedSamplingRate
    else none
  sameRate.or
    (telephoneEvents.find? fun rtpMap => decide (nNegotiatedSamplingRate > rtpMap.samplingRate))

/-- The loop over the local payloads from index `k` on, `count` of them: those with the number that
is to be taken get another one.  The flag is false where there is none. -/
def resolveCollisions (nNewPayloadNum nLocalPayloadIndex : Nat) :
    (count k : Nat) → PayloadList → Bool × PayloadList
  | 0, _, payloads => (true, payloads)
  | count + 1, k, payloads =>
    if payloads.numberAt k = some nNewPayloadNum ∧ k ≠ nLocalPayloadIndex then
      match payloads.freeDynamicNumber with
      | none => (false, payloads)
      | some nDynamicPt =>
        resolveCollisions nNewPayloadNum nLocalPayloadIndex count (k + 1)
          (payloads.setPayloadNumber k nDynamicPt)
    else resolveCollisions nNewPayloadNum nLocalPayloadIndex count (k + 1) payloads

/-- One negotiated payload: its local counterpart takes its number. -/
def syncPayload (payloads : PayloadList) (negoRtpMap : RtpMap) : Bool × PayloadList :=
  match payloads.findPayload negoRtpMap.payloadType negoRtpMap.samplingRate with
  | none => (true, payloads)
  | some nLocalPayloadIndex =>
    if payloads.numberAt nLocalPayloadIndex = some negoRtpMap.payloadNumber then (true, payloads)
    else
      let resolved := resolveCollisions negoRtpMap.payloadNumber nLocalPayloadIndex
        payloads.length 0 payloads
      if resolved.1 then
        (true, resolved.2.setPayloadNumber nLocalPayloadIndex negoRtpMap.payloadNumber)
      else (false, resolved.2)

/-- The loop over the negotiated payloads. -/
def syncPayloads (payloads : PayloadList) : List RtpMap → Bool × PayloadList
  | [] => (true, payloads)
  | negoRtpMap :: negotiated =>
    let synced := syncPayload payloads negoRtpMap
    if synced.1 then syncPayloads synced.2 negotiated else (false, synced.2)

/-- What `NegotiatePayload` leaves: the payload that it returns, which may be null, and the payloads
of the negotiated and of the local profile. -/
structure NegotiatedPayloads where
  returned : Option RtpMap
  negotiated : List RtpMap
  pLocalProfile : PayloadList

def negotiatePayload (bIsOfferReceived : Bool) (findMatchingEvsPayload negotiateEvs : Nat → Bool)
    (pLocalProfile pPeerProfile : PayloadList) (bAmrPayloadFormatRelaxedMatching : Bool) :
    NegotiatedPayloads :=
  match negotiateAudioPayload bIsOfferReceived findMatchingEvsPayload negotiateEvs pLocalProfile
      bAmrPayloadFormatRelaxedMatching 0 pPeerProfile with
  | none => { returned := none, negotiated := [], pLocalProfile }
  | some rtpMap =>
    let negotiated := rtpMap :: (negotiateTelephoneEvent rtpMap.samplingRate pPeerProfile).toList
    -- In the MT case, the local numbers are synchronized with the negotiated ones.
    if bIsOfferReceived then
      let synced := syncPayloads pLocalProfile negotiated
      { returned := if synced.1 then some rtpMap else none, negotiated, pLocalProfile := synced.2 }
    else { returned := some rtpMap, negotiated, pLocalProfile }

end AudioProfileNegotiator

end ImsStack.Media
