import ImsStack.Sdp.SdpMedia
import ImsStack.Sdp.SdpMediaFormat

/-!
`SdpMediaParameter`: a media of the session and how it is compared with that of the peer.
-/

namespace ImsStack.Sdp

def SdpMedia.setTransportProtocol (m : SdpMedia) (transportProtocol : TransportProtocol) :
    SdpMedia :=
  match transportProtocol with
  | .invalid => m
  | .other => { m with transportProtocol := transportProtocol }
  | _ => { m with
      transportProtocol := transportProtocol
      strTransportProtocol := transportProtocol.name.toList }

end ImsStack.Sdp

namespace ImsStack.OfferAnswer

open Platform.AString Sdp

/-- `Sdp::DIRECTION_*`. -/
inductive MediaDirection where
  | none | inactive | recvonly | sendonly | sendrecv
  deriving DecidableEq, Repr

/-- `SdpOfferAnswer::RESULT_*`, as far as `Compare` returns them. -/
inductive CompareResult where
  | success | failure | notFound
  deriving DecidableEq, Repr

structure SdpMediaParameter where
  /-- The position that the media has in the session. -/
  mid : Int
  media : SdpMedia := {}
  mediaFormats : List SdpMediaFormat := []
  /-- The a=mid tag. -/
  attrMid : Option Chars := none
  direction : MediaDirection := .none
  previousDirection : MediaDirection := .none
  directionPresent : Bool := false
  /-- There are attributes, and a "tcap" attribute among them. -/
  hasAttributes : Bool := false
  hasTcap : Bool := false
  /-- There is a "curr", "des" or "conf" attribute. -/
  qosPreconditionPresent : Bool := false
  deriving DecidableEq, Repr

/-- The formats that a comparison has matched so far: those of the proposal, and those of the
peer. -/
structure Matching where
  accepted : List SdpMediaFormat := []
  peer : List SdpMediaFormat := []
  atLeastOneCodecMatched : Bool := false
  deriving DecidableEq, Repr

namespace Matching

/-- The formats of the proposal and of the peer get `accepted` and `peer`. -/
def add (m : Matching) (accepted peer : SdpMediaFormat) : Matching :=
  { accepted := m.accepted ++ [accepted], peer := m.peer ++ [peer], atLeastOneCodecMatched := true }

end Matching

namespace SdpMediaParameter

def isSameAvCodecPresent (formats : List SdpMediaFormat) : SdpMediaFormat → Bool
  | .avCodec codec => formats.any fun
    | .avCodec other => codec.payloadType == other.payloadType
    | .plain _ _ => false
  | .plain _ _ => false

def isSameNonAvCodecPresent (formats : List SdpMediaFormat) (format : SdpMediaFormat) : Bool :=
  format.getType != .rtp &&
    formats.any fun other => other.getType != .rtp && other.equals format

/-- The loop over the own formats for one format of the peer; the flag is bMediaFormatFound. -/
def compareLocal (initialOffer isOffer : Bool) (offered : SdpMediaFormat) :
    List SdpMediaFormat → Matching → Bool → Matching × Bool
  | [], m, found => (m, found)
  | answered :: rest, m, found =>
    if isSameAvCodecPresent m.peer offered then (m, found)
    else if !isOffer && isSameAvCodecPresent m.accepted answered then
      compareLocal initialOffer isOffer offered rest m found
    else if offered.equals answered then
      -- The payload type should be retained during the session.
      if isOffer && !initialOffer && !equalsOrNull offered.getValue answered.getValue then
        compareLocal initialOffer isOffer offered rest { m with peer := m.peer ++ [offered] } found
      else compareLocal initialOffer isOffer offered rest (m.add answered offered) true
    else compareLocal initialOffer isOffer offered rest m found

/-- The formats of the peer, in its order of preference. -/
def compareFormats (initialOffer isOffer : Bool) (answered : List SdpMediaFormat) :
    List SdpMediaFormat → Matching → Matching
  | [], m => m
  | offered :: rest, m =>
    let compared := compareLocal initialOffer isOffer offered answered m false
    let m := compared.1
    compareFormats initialOffer isOffer answered rest
      (if isOffer && !initialOffer && !compared.2 && !isSameAvCodecPresent m.peer offered &&
          !isSameNonAvCodecPresent m.peer offered then m.add offered offered
      else m)

/-- The formats that are new in an offer. -/
def addNewFormats : List SdpMediaFormat → Matching → Matching
  | [], m => m
  | offered :: rest, m =>
    addNewFormats rest
      (if isSameAvCodecPresent m.peer offered || isSameNonAvCodecPresent m.peer offered then m
      else m.add offered offered)

/-- All that is matched of the formats of a peer. -/
def matchFormats (initialOffer isOffer : Bool) (answered offered : List SdpMediaFormat) :
    Matching :=
  let m := compareFormats initialOffer isOffer answered offered {}
  if isOffer then
    let m := addNewFormats offered m
    if !initialOffer && !m.atLeastOneCodecMatched then
      { m with
        accepted := m.accepted ++ m.peer
        atLeastOneCodecMatched := !(m.accepted ++ m.peer).isEmpty }
    else m
  else m

def validateDirection (p peer : SdpMediaParameter) : Bool :=
  match peer.direction, p.direction with
  | .recvonly, .recvonly => false
  | .sendonly, .sendonly => false
  | _, _ => true

/-- `UpdateDirection` from another parameter. -/
def updateDirectionFrom (p other : SdpMediaParameter) : SdpMediaParameter :=
  { p with
    directionPresent := other.directionPresent
    previousDirection := p.direction
    direction := other.direction }

/-- An answer with another transport protocol is taken where the offer has a "tcap" attribute. -/
def updateTransportProtocol (p peer : SdpMediaParameter) (isOffer : Bool) : SdpMediaParameter :=
  if peer.media.transportProtocol ≠ p.media.transportProtocol ∧ !isOffer ∧ p.hasTcap then
    { p with media := p.media.setTransportProtocol peer.media.transportProtocol }
  else p

/-- What `Compare` leaves in the media itself and in the proposal, and the media of the peer that
it makes. -/
structure Compared where
  result : CompareResult
  self : SdpMediaParameter
  proposal : SdpMediaParameter
  negotiatedPeer : Option SdpMediaParameter := none
  deriving DecidableEq, Repr

/-- What follows once a codec has matched; `m` is none where the peer has rejected the media. -/
def acceptMedia (self peer proposal : SdpMediaParameter) (m : Option Matching) : Compared :=
  if !self.validateDirection peer then { result := .failure, self, proposal }
  else
    let proposal := proposal.updateDirectionFrom peer
    match m with
    | none =>
      { result := .success
        self
        proposal := { proposal with mid := self.mid }
        negotiatedPeer := some { proposal with mediaFormats := peer.mediaFormats } }
    | some m =>
      { result := .success
        self
        proposal := { proposal with mediaFormats := m.accepted, mid := self.mid }
        negotiatedPeer := some { proposal with mediaFormats := m.peer } }

def compare (initialOffer isOffer : Bool) (self peer proposal : SdpMediaParameter) : Compared :=
  let proposal := { proposal with media := peer.media }
  if peer.media.port = 0 then acceptMedia self peer proposal none
  else if peer.media.mediaType ≠ self.media.mediaType then { result := .notFound, self, proposal }
  else
    let self := self.updateTransportProtocol peer isOffer
    if peer.media.transportProtocol ≠ self.media.transportProtocol then
      { result := .notFound, self, proposal }
    else
      let m := matchFormats initialOffer isOffer self.mediaFormats peer.mediaFormats
      if m.atLeastOneCodecMatched then acceptMedia self peer proposal (some m)
      else { result := .notFound, self, proposal }

end SdpMediaParameter

end ImsStack.OfferAnswer
