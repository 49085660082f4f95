import ImsStack.Media.AudioProfile

/-!
The two searches for the local payload that a payload of the peer matches: the one gives the
negotiated mode-sets, the other the index.
-/

namespace ImsStack.Media.AudioProfileNegotiator

open ImsStack.Platform AudioProfile

/-- `RETURN_MODE_MATCHED` and `RETURN_MODE_SIMILAR`. -/
inductive ReturnMode
  | matched
  | similar
deriving DecidableEq

/-- The result of `CompareModeSet`: -1, 0 and 1. -/
inductive CompareResult
  | notMatched
  | similar
  | exact
deriving DecidableEq

/-- `*pnNegoModeSetList` and `*pnNegoDefaultRtpModeSet`. -/
structure NegoModeSets where
  modeSetList : BitVec 32 := 0
  defaultRtpModeSet : BitVec 32 := 0
deriving DecidableEq

/-- The branch of `CompareModeSet` for an offer that was sent, where both sides have a mode-set: the
modes that they have in common are negotiated. -/
def compareCommonModes (pLocalFmtp pPeerFmtp : AmrFmtp) (bReturnMode : ReturnMode)
    (nego : NegoModeSets) : CompareResult × NegoModeSets :=
  if nego.modeSetList = 0 then
    if bReturnMode = .similar then
      (if pLocalFmtp.modeSetList ≠ pPeerFmtp.modeSetList then .similar else .exact,
        { nego with modeSetList := pPeerFmtp.modeSetList })
    else (.notMatched, nego)
  else (if pLocalFmtp.modeSetList ≠ pPeerFmtp.modeSetList then .similar else .exact, nego)

section search

variable (bIsOfferReceived : Bool)

def compareModeSet (pLocalFmtp pPeerFmtp : AmrFmtp) (bReturnMode : ReturnMode)
    (nego : NegoModeSets) : CompareResult × NegoModeSets :=
  if bIsOfferReceived then
    if pPeerFmtp.modeSetList ≠ 0 then
      (.exact, { nego with modeSetList := pPeerFmtp.modeSetList })
    else if pLocalFmtp.modeSetList ≠ 0 then
      (.exact, { nego with modeSetList := pLocalFmtp.modeSetList })
    else (.exact, { modeSetList := 0, defaultRtpModeSet := pLocalFmtp.defaultRtpModeSet })
  else if pLocalFmtp.modeSetList = 0 ∧ pPeerFmtp.modeSetList = 0 then
    (.exact, { modeSetList := 0, defaultRtpModeSet := pLocalFmtp.defaultRtpModeSet })
  else if pLocalFmtp.modeSetList ≠ 0 ∧ pPeerFmtp.modeSetList ≠ 0 then
    compareCommonModes pLocalFmtp pPeerFmtp bReturnMode
      { nego with modeSetList := pLocalFmtp.modeSetList &&& pPeerFmtp.modeSetList }
  else (.exact, { nego with modeSetList := pLocalFmtp.modeSetList ||| pPeerFmtp.modeSetList })

section amr

variable (pPayload : Payload) (bReturnMode : ReturnMode) (bAmrPayloadFormatRelaxedMatching : Bool)

/-- The loop of `FindMatchedAmrInProfile`.  What has been found similar is kept. -/
def findMatchedAmrInProfile (temp : Option NegoModeSets) (nego : NegoModeSets) :
    List (Option Payload) → Bool × NegoModeSets
  | [] =>
    match temp with
    | some found => (true, found)
    | none => (false, nego)
  | none :: payloads => findMatchedAmrInProfile temp nego payloads
  | some pComparedPayload :: payloads =>
    if isAmrName pComparedPayload.rtpMap.payloadType then
      match pComparedPayload.amrFmtp with
      | none => findMatchedAmrInProfile temp nego payloads
      | some pCompareFmtp =>
        if !pComparedPayload.rtpMap.payloadType.equalsIgnoreCase pPayload.rtpMap.payloadType then
          findMatchedAmrInProfile temp nego payloads
        else if pComparedPayload.rtpMap.samplingRate ≠ pPayload.rtpMap.samplingRate then
          findMatchedAmrInProfile temp nego payloads
        else
          match pPayload.amrFmtp with
          | none => (true, ⟨pCompareFmtp.modeSetList, pCompareFmtp.defaultRtpModeSet⟩)
          | some pReceivedFmtp =>
            if pCompareFmtp.octetAlign ≠ pReceivedFmtp.octetAlign ∧
                !bAmrPayloadFormatRelaxedMatching then
              findMatchedAmrInProfile temp nego payloads
            else
              let compared := compareModeSet bIsOfferReceived pCompareFmtp pReceivedFmtp
                bReturnMode nego
              match compared.1 with
              | .notMatched => findMatchedAmrInProfile temp compared.2 payloads
              | .similar =>
                if temp.isNone ∧ bReturnMode = .similar then
                  findMatchedAmrInProfile (some compared.2) compared.2 payloads
                else findMatchedAmrInProfile temp compared.2 payloads
              | .exact => (true, compared.2)
    else findMatchedAmrInProfile temp nego payloads

end amr

def findAmrInProfile (pProfile : List (Option Payload)) (pPayload : Payload)
    (bAmrPayloadFormatRelaxedMatching : Bool) (nego : NegoModeSets) : Bool × NegoModeSets :=
  let first := findMatchedAmrInProfile bIsOfferReceived pPayload .matched
    bAmrPayloadFormatRelaxedMatching none nego pProfile
  if first.1 then first
  else
    findMatchedAmrInProfile bIsOfferReceived pPayload .similar bAmrPayloadFormatRelaxedMatching
      none first.2 pProfile

/-- What the body of the loop over the local payloads does: it goes on, keeps the index of the
payload, or returns it. -/
inductive IndexStep
  | next
  | keep
  | found
deriving DecidableEq

section index

-- The comparisons of EVS, by the number of the pass; they may change the format of the peer.
variable (compareEvs : Nat → EvsFmtp → EvsFmtp → Bool × EvsFmtp)
variable (strCodecName : NullString) (bReturnMode : ReturnMode)
variable (bAmrPayloadFormatRelaxedMatching : Bool)

/-- The branch for AMR. -/
def amrStep (pPeerPayload : Payload) (nTempIndex : Option Nat) (pComparedPayload : Payload) :
    IndexStep :=
  if isAmrName pComparedPayload.rtpMap.payloadType then
    match pComparedPayload.amrFmtp with
    | none => .next
    | some pCompareFmtp =>
      if pComparedPayload.rtpMap.payloadType.equalsIgnoreCase
          pPeerPayload.rtpMap.payloadType = false then .next
      else if pComparedPayload.rtpMap.samplingRate ≠ pPeerPayload.rtpMap.samplingRate then .next
      else
        match pPeerPayload.amrFmtp with
        | none => .found
        | some pReceivedFmtp =>
          if pCompareFmtp.octetAlign ≠ pReceivedFmtp.octetAlign ∧
              !bAmrPayloadFormatRelaxedMatching then .next
          else
            match (compareModeSet bIsOfferReceived pCompareFmtp pReceivedFmtp bReturnMode {}).1 with
            | .notMatched => .next
            | .similar => if nTempIndex.isNone ∧ bReturnMode = .similar then .keep else .next
            | .exact => .found
  else .next

/-- The branch for EVS, with the payload of the peer that it leaves. -/
def evsStep (nNegoEntry : Nat) (pPeerPayload pComparedPayload : Payload) : IndexStep × Payload :=
  if pComparedPayload.rtpMap.payloadType.equalsIgnoreCaseLiteral "EVS" then
    match pComparedPayload.evsFmtp, pPeerPayload.evsFmtp with
    | none, _ => (.next, pPeerPayload)
    | some _, none => (.found, pPeerPayload)
    | some pCompareFmtp, some pReceivedFmtp =>
      if pComparedPayload.rtpMap.payloadType.equalsIgnoreCase
          pPeerPayload.rtpMap.payloadType = false then (.next, pPeerPayload)
      else
        let compared := compareEvs nNegoEntry pCompareFmtp pReceivedFmtp
        (if compared.1 then .found else .next, { pPeerPayload with fmtp := some (.evs compared.2) })
  else (.next, pPeerPayload)

/-- The body of the loop, for a payload that is not null. -/
def indexStep (nNegoEntry : Nat) (pPeerPayload : Payload) (nTempIndex : Option Nat)
    (pComparedPayload : Payload) : IndexStep × Payload :=
  if isAmrName strCodecName then
    if nNegoEntry ≥ 1 then (.next, pPeerPayload)
    else
      (amrStep bIsOfferReceived bReturnMode bAmrPayloadFormatRelaxedMatching pPeerPayload nTempIndex
        pComparedPayload, pPeerPayload)
  else if strCodecName.equalsIgnoreCaseLiteral "EVS" then
    evsStep compareEvs nNegoEntry pPeerPayload pComparedPayload
  else if strCodecName.equalsIgnoreCaseLiteral "PCMU" ||
      strCodecName.equalsIgnoreCaseLiteral "PCMA" then
    if nNegoEntry ≥ 1 then (.next, pPeerPayload)
    else if pComparedPayload.rtpMap.payloadType.equalsIgnoreCase pPeerPayload.rtpMap.payloadType then
      (.found, pPeerPayload)
    else (.next, pPeerPayload)
  else (.next, pPeerPayload)

/-- How a loop over the local payloads ends. -/
structure IndexSearch where
  returned : Option Nat
  nTempIndex : Option Nat
  pPeerPayload : Payload

/-- The inner loop, from index `i` on. -/
def indexLoop (nNegoEntry i : Nat) (nTempIndex : Option Nat) (pPeerPayload : Payload) :
    List (Option Payload) → IndexSearch
  | [] => ⟨none, nTempIndex, pPeerPayload⟩
  | none :: payloads => indexLoop nNegoEntry (i + 1) nTempIndex pPeerPayload payloads
  | some pComparedPayload :: payloads =>
    let step := indexStep bIsOfferReceived compareEvs strCodecName bReturnMode
      bAmrPayloadFormatRelaxedMatching nNegoEntry pPeerPayload nTempIndex pComparedPayload
    match step.1 with
    | .next => indexLoop nNegoEntry (i + 1) nTempIndex step.2 payloads
    | .keep => indexLoop nNegoEntry (i + 1) (some i) step.2 payloads
    | .found => ⟨some i, nTempIndex, step.2⟩

/-- `EVS_NEGO_RETRY_COUNT` passes over the local payloads; the index is -1 where none is found. -/
def findMatchedPayloadIndexFromProfile (pLocalProfile : List (Option Payload))
    (pPeerPayload : Payload) : Int × Payload :=
  let first := indexLoop bIsOfferReceived compareEvs strCodecName bReturnMode
    bAmrPayloadFormatRelaxedMatching 0 0 none pPeerPayload pLocalProfile
  match first.returned with
  | some i => (i, first.pPeerPayload)
  | none =>
    let second := indexLoop bIsOfferReceived compareEvs strCodecName bReturnMode
      bAmrPayloadFormatRelaxedMatching 1 0 first.nTempIndex first.pPeerPayload pLocalProfile
    match second.returned, second.nTempIndex with
    | some i, _ => (i, second.pPeerPayload)
    | none, some i => (i, second.pPeerPayload)
    | none, none => (-1, second.pPeerPayload)

end index

def findPayloadIndexFromProfile (compareEvs : Nat → EvsFmtp → EvsFmtp → Bool × EvsFmtp)
    (strCodecName : NullString) (pLocalProfile : List (Option Payload)) (pPeerPayload : Payload)
    (bAmrPayloadFormatRelaxedMatching : Bool) : Int × Payload :=
  let first := findMatchedPayloadIndexFromProfile bIsOfferReceived compareEvs strCodecName .matched
    bAmrPayloadFormatRelaxedMatching pLocalProfile pPeerPayload
  if first.1 = -1 then
    findMatchedPayloadIndexFromProfile bIsOfferReceived compareEvs strCodecName .similar
      bAmrPayloadFormatRelaxedMatching pLocalProfile first.2
  else first

end search

end ImsStack.Media.AudioProfileNegotiator
