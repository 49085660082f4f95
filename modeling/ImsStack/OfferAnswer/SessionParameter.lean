import ImsStack.OfferAnswer.SdpMediaParameter

/-!
`SessionParameter` and `SdpMediaGroup`: the medias of a session with the groups that hold them, and
how both are negotiated.
-/

namespace ImsStack.OfferAnswer

open Platform.AString Sdp

/-- `SdpMediaGroup::LS`, `FID` and `SRF`. -/
inductive GroupType where
  | ls | fid | srf | other
  deriving DecidableEq, Repr

structure SdpMediaGroup where
  type : GroupType := .other
  strType : Chars := []
  /-- The tags of the group; a null string is `none`. -/
  mids : List (Option Chars) := []
  mediaStreamIndexes : List Int := []
  deriving DecidableEq, Repr

namespace SdpMediaGroup

/-- The copy constructor, which leaves the tags out.  A list of groups holds copies. -/
def copy (g : SdpMediaGroup) : SdpMediaGroup := { g with mids := [] }

def decodeType (strType : Chars) : GroupType :=
  if equalsLiteral strType "LS" then .ls
  else if equalsLiteral strType "FID" then .fid
  else if equalsLiteral strType "SRF" then .srf
  else .other

/-- The tokens behind the type of a group; what is behind a space at the end is a null string. -/
def tags (strGroupAttribute : Chars) : List (Option Chars) :=
  let tokens := (split ' ' strGroupAttribute).tail.map some
  if strGroupAttribute.getLast? = some ' ' then tokens.dropLast ++ [none] else tokens

/-- The tag of a group is the a=mid tag of the media. -/
def isTagOf (tag : Option Chars) (media : SdpMediaParameter) : Bool :=
  equalsOrNull tag media.attrMid

/-- `Create`; the value of the attribute is null where there is none. -/
def create (strGroupAttribute : Option Chars) (mediaParams : List SdpMediaParameter) :
    Option SdpMediaGroup := do
  let value ← strGroupAttribute
  match split ' ' value with
  | [] => none
  | strType :: _ =>
    let tags := tags value
    let mediaStreamIndexes := tags.filterMap fun tag =>
      (mediaParams.find? (isTagOf tag)).map SdpMediaParameter.mid
    if tags.length ≠ mediaStreamIndexes.length then none
    else some { type := decodeType strType, strType, mids := tags, mediaStreamIndexes }

/-- `RemoveMediaStream`, with whether the group had the media. -/
def removeMediaStream (g : SdpMediaGroup) (nMid : Int) : SdpMediaGroup × Bool :=
  ({ g with mediaStreamIndexes := g.mediaStreamIndexes.erase nMid },
    g.mediaStreamIndexes.contains nMid)

end SdpMediaGroup

namespace SdpMediaParameter

def markRejectedOrRemoved (p : SdpMediaParameter) : SdpMediaParameter :=
  { p with media := { p.media with port := 0, numOfPort := 0 } }

/-- `operator=`, which leaves the position. -/
def assign (p other : SdpMediaParameter) : SdpMediaParameter := { other with mid := p.mid }

def updateDirection (p : SdpMediaParameter) : SdpMediaParameter :=
  { p with
    direction := match p.direction with
      | .sendonly => .recvonly
      | .recvonly => .sendonly
      | direction => direction }

/-- `UpdateDirection` of a proposal, from the own direction and that of the peer. -/
def updateDirectionOf (p peer proposal : SdpMediaParameter) : SdpMediaParameter :=
  let proposal :=
    match peer.direction, p.direction with
    | .sendrecv, .sendonly | .none, .sendonly =>
      { proposal with directionPresent := true, direction := .recvonly }
    | .sendrecv, .recvonly | .none, .recvonly =>
      { proposal with directionPresent := true, direction := .sendonly }
    | .sendrecv, .sendrecv | .none, .sendrecv =>
      { proposal with directionPresent := true, direction := .sendrecv }
    | _, .inactive => { proposal with directionPresent := true, direction := .inactive }
    | _, _ => proposal
  { proposal with previousDirection := p.previousDirection }

def updateProperties (p other : SdpMediaParameter) : SdpMediaParameter :=
  { p with
    media :=
      if p.media.port ≠ 0 then
        p.media.setValue other.media.mediaType other.media.port other.media.transportProtocol
          (p.mediaFormats.map fun format => format.getValue.getD []) other.media.strMediaType
      else p.media
    attrMid := other.attrMid.or p.attrMid
    previousDirection := other.previousDirection
    hasAttributes := other.hasAttributes || p.hasAttributes
    hasTcap := if other.hasAttributes then other.hasTcap else p.hasTcap
    qosPreconditionPresent := other.qosPreconditionPresent }

end SdpMediaParameter

/-- What `SessionParameter` calls of `SdpSessionParameter`, which is created from a description of
type `D`, and the media that `SdpMediaParameter::Create` makes of a media description. -/
structure SessionLevelOps (S D M : Type) where
  default : S
  create : D → Option S
  /-- The values of the a=group attributes. -/
  groupAttributes : S → List (Option Chars)
  removeGroupAttributes : S → S
  /-- The session version in the origin field. -/
  sessionVersion : S → Chars
  /-- What `Compare` leaves in the proposal, and whether it succeeds. -/
  compare : S → S → S → S × Bool
  updateDirection : S → S
  updateDirectionFrom : S → S → S
  updateDirectionOf : S → S → S → S
  updateProperties : S → S → S
  createMedia : M → Option SdpMediaParameter

structure SessionParameter (S : Type) where
  sessionParam : S
  remoteVersion : Option Chars := none
  lastSdpProvidedWithNegotiatedSdp : Bool := false
  mediaParams : List SdpMediaParameter := []
  mediaGroups : List SdpMediaGroup := []
  /-- `m_nMid`, the position that was given last. -/
  lastMid : Int := 0
  deriving DecidableEq, Repr

/-- The results of a negotiation. -/
inductive NegotiationResult where
  | success | failure | notFound | qosPreconditionPresent
  deriving DecidableEq, Repr

namespace SessionParameter

variable {S D M : Type}

/-- The copy constructor and `operator=`. -/
def copy (s : SessionParameter S) : SessionParameter S :=
  { s with mediaGroups := s.mediaGroups.map SdpMediaGroup.copy }

/-- A media that is appended gets the position that `CreateMid` returns. -/
def appendMedia (s : SessionParameter S) (media : SdpMediaParameter) : SessionParameter S :=
  { s with
    lastMid := s.mediaParams.length
    mediaParams := s.mediaParams ++ [{ media with mid := s.mediaParams.length }] }

def createMediaParameter (s : SessionParameter S) : SessionParameter S :=
  s.appendMedia { mid := 0 }

/-- The loop over the media descriptions; `none` where one fails. -/
def createMedias (ops : SessionLevelOps S D M) (s : SessionParameter S) :
    List M → Option (SessionParameter S)
  | [] => some s
  | description :: rest =>
    match ops.createMedia description with
    | none => none
    | some media => createMedias ops (s.appendMedia media) rest

def create (ops : SessionLevelOps S D M) (s : SessionParameter S) (sessionDescription : D)
    (mediaDescriptions : List M) : Option (SessionParameter S) := do
  let sessionParam ← ops.create sessionDescription
  let s := { s with sessionParam, mediaParams := [], mediaGroups := [] }
  if mediaDescriptions = [] then return s
  else
    let s ← s.createMedias ops mediaDescriptions
    let groups ← (ops.groupAttributes s.sessionParam).mapM
      (SdpMediaGroup.create · s.mediaParams)
    return { s with
      mediaGroups := groups.map SdpMediaGroup.copy
      sessionParam := ops.removeGroupAttributes s.sessionParam }

/-- `RemoveMediaFromGroup`: the media is removed from the first group that has it. -/
def removeMediaFromGroups (nMid : Int) : List SdpMediaGroup → List SdpMediaGroup
  | [] => []
  | g :: rest =>
    let removed := g.removeMediaStream nMid
    if removed.2 then removed.1 :: rest else g :: removeMediaFromGroups nMid rest

def removeMediaFromGroup (s : SessionParameter S) (nMid : Int) : SessionParameter S :=
  { s with mediaGroups := removeMediaFromGroups nMid s.mediaGroups }

def removeMediaParameter (s : SessionParameter S) (nMid : Nat) (bRejectedOrRemoved : Bool) :
    SessionParameter S :=
  if nMid < s.mediaParams.length then
    let mediaParams :=
      if bRejectedOrRemoved then s.mediaParams.modify nMid SdpMediaParameter.markRejectedOrRemoved
      else s.mediaParams.take nMid ++ (s.mediaParams.drop (nMid + 1)).mapIdx fun i media =>
        { media with mid := (nMid + i : Nat) }
    ({ s with mediaParams }).removeMediaFromGroup nMid
  else s

/-- The private `Create`. -/
def clear (ops : SessionLevelOps S D M) (s : SessionParameter S) : SessionParameter S :=
  { s with sessionParam := ops.default, mediaParams := [], mediaGroups := [] }

/-- The media at a position of the list; an access behind its end throws. -/
def mediaAt (s : SessionParameter S) (n : Int) : Option SdpMediaParameter :=
  if 0 ≤ n then s.mediaParams[n.toNat]? else none

/-- The a=mid tag of a media is that of a media of the group; `none` where an access throws. -/
def isInGroup (s : SessionParameter S) (strMid : Option Chars) : List Int → Option Bool
  | [] => some false
  | nIndex :: rest => do
    let media ← s.mediaAt nIndex
    if equalsIgnoreCaseOrNull strMid media.attrMid then return true else s.isInGroup strMid rest

/-- The comparison of an offered group with an own one: bMidMatched, which stays set once a media
has been found, and whether a media was not found before. -/
def compareGroup (s peer : SessionParameter S) (indexes : List Int) :
    List Int → Bool → Option (Bool × Bool)
  | [], bMidMatched => some (bMidMatched, false)
  | nOfferIndex :: rest, bMidMatched => do
    let media ← peer.mediaAt nOfferIndex
    let found ← s.isInGroup media.attrMid indexes
    if bMidMatched || found then s.compareGroup peer indexes rest true
    else return (false, true)

/-- bGroupMatched after the loop over the own groups. -/
def matchGroup (s peer : SessionParameter S) (offered : SdpMediaGroup) :
    List SdpMediaGroup → Bool → Option Bool
  | [], bGroupMatched => some bGroupMatched
  | g :: rest, bGroupMatched =>
    if offered.type ≠ g.type then s.matchGroup peer offered rest bGroupMatched
    else do
      let compared ← s.compareGroup peer g.mediaStreamIndexes offered.mediaStreamIndexes false
      if compared.1 then return true
      else s.matchGroup peer offered rest (bGroupMatched && !compared.2)

/-- The groups that the proposal gets: RESULT_FAILURE is `some none`, and `none` is an access that
throws. -/
def negotiateGroups (s peer : SessionParameter S) (mediaGroup : Bool) :
    List SdpMediaGroup → Option (Option (List SdpMediaGroup))
  | [] => some (some [])
  | offered :: rest =>
    if offered.type = .other then s.negotiateGroups peer mediaGroup rest
    else
      let matched := if mediaGroup then s.matchGroup peer offered s.mediaGroups true else some true
      do
      let bGroupMatched ← matched
      if bGroupMatched then
        let negotiated ← s.negotiateGroups peer mediaGroup rest
        return negotiated.map (offered.copy :: ·)
      else return none

/-- The tags of all the medias of the peer are those of the own ones. -/
def sameMids (s : SessionParameter S) : List SdpMediaParameter → List SdpMediaParameter → Option Bool
  | _, [] => some true
  | [], _ :: _ => none
  | media :: rest, peerMedia :: peerRest =>
    if equalsIgnoreCaseOrNull peerMedia.attrMid media.attrMid then s.sameMids rest peerRest
    else some false

/-- `CompareMediaGroups`, with the groups of the proposal; `mediaGroup` is F_MEDIA_GROUP. -/
def compareMediaGroups (s peer proposal : SessionParameter S) (mediaGroup : Bool) :
    Option (Option (SessionParameter S)) :=
  if s.mediaGroups = [] ∧ peer.mediaGroups = [] then some (some proposal)
  else if mediaGroup ∧ peer.mediaGroups = [] then some (some proposal)
  else if mediaGroup ∧ s.mediaGroups.length < peer.mediaGroups.length then some none
  else
    let same := if mediaGroup then s.sameMids s.mediaParams peer.mediaParams else some true
    do
    let bSame ← same
    if bSame then
      let negotiated ← s.negotiateGroups peer mediaGroup peer.mediaGroups
      return negotiated.map fun groups =>
        { proposal with mediaGroups := groups.map SdpMediaGroup.copy }
    else return none

/-- The objects of a negotiation, and what it has found so far. -/
structure Negotiation (S : Type) where
  self : SessionParameter S
  proposalView : SessionParameter S
  peerView : SessionParameter S
  bAtLeastOneMatched : Bool := false
  bQosPreconditionPresent : Bool := false
  deriving DecidableEq, Repr

namespace Negotiation

/-- A media is appended to the peer view as it is. -/
def appendPeer (n : Negotiation S) (media : SdpMediaParameter) : Negotiation S :=
  { n with peerView :=
      { n.peerView with mediaParams := n.peerView.mediaParams ++ [media] } }

/-- The media of the proposal gets the position that `CreateMid` returns, unless `Compare` has set
another. -/
def appendProposal (n : Negotiation S) (media : SdpMediaParameter) : Negotiation S :=
  { n with proposalView :=
      { n.proposalView with
        lastMid := n.proposalView.mediaParams.length
        mediaParams := n.proposalView.mediaParams ++ [media] } }

/-- A newly added media stream. -/
def addNewMedia (n : Negotiation S) (created peerMedia : SdpMediaParameter) : Negotiation S :=
  let proposal := (created.assign peerMedia).updateDirection
  { (n.appendProposal proposal).appendPeer peerMedia with
    bAtLeastOneMatched := true
    bQosPreconditionPresent := n.bQosPreconditionPresent || proposal.qosPreconditionPresent }

/-- A media stream that is not supported: its port is set to zero, and it is removed from the own
group. -/
def rejectMedia (n : Negotiation S) (created peerMedia : SdpMediaParameter) : Negotiation S :=
  let proposal := (created.assign peerMedia).updateDirection.markRejectedOrRemoved
  let n := (n.appendProposal proposal).appendPeer peerMedia
  { n with self := n.self.removeMediaFromGroup proposal.mid }

/-- The loop over the medias of the peer, of which the first has the position `i`. -/
def compareMedias (bInitialOffer bIsOffer : Bool) :
    Nat → List SdpMediaParameter → Negotiation S → Negotiation S
  | _, [], n => n
  | i, peerMedia :: rest, n =>
    let created : SdpMediaParameter := { mid := n.proposalView.mediaParams.length }
    compareMedias bInitialOffer bIsOffer (i + 1) rest <|
      match n.self.mediaParams[i]? with
      | none => n.addNewMedia created peerMedia
      | some media =>
        if bIsOffer ∧ media.media.port = 0 ∧ peerMedia.media.port ≠ 0 then
          n.addNewMedia created peerMedia
        else
          let compared := media.compare bInitialOffer bIsOffer peerMedia created
          let n := { n with self := { n.self with
            mediaParams := n.self.mediaParams.set i compared.self } }
          if compared.result ≠ .success then n.rejectMedia created peerMedia
          else
            let media := compared.self
            let proposal := if bIsOffer then compared.proposal
              else media.updateDirectionOf peerMedia compared.proposal
            let proposal := (proposal.updateProperties media).updateDirection
            let n := match compared.negotiatedPeer with
              | none => n
              | some peerParam => n.appendPeer (peerParam.updateProperties peerMedia)
            { n.appendProposal proposal with
              bAtLeastOneMatched := true
              bQosPreconditionPresent :=
                n.bQosPreconditionPresent || proposal.qosPreconditionPresent }

def result (n : Negotiation S) : NegotiationResult :=
  if n.bAtLeastOneMatched then
    if n.bQosPreconditionPresent then .qosPreconditionPresent else .success
  else .notFound

end Negotiation

/-- `CompareSessionParameters`: the session level of the proposal and of the peer view. -/
def compareSessionParameters (ops : SessionLevelOps S D M) (bIsOffer : Bool)
    (s peer proposalView peerView : SessionParameter S) : Negotiation S × Bool :=
  let proposalView :=
    { proposalView with remoteVersion := some (ops.sessionVersion peer.sessionParam) }
  let compared := ops.compare s.sessionParam peer.sessionParam proposalView.sessionParam
  if compared.2 then
    let proposal := if bIsOffer then compared.1
      else ops.updateDirectionOf s.sessionParam peer.sessionParam compared.1
    let proposal := ops.updateDirection (ops.updateProperties proposal s.sessionParam)
    ({ self := s
       proposalView := { proposalView with sessionParam := proposal }
       peerView := { peerView with sessionParam := peer.sessionParam } }, true)
  else
    ({ self := s, proposalView := { proposalView with sessionParam := compared.1 }, peerView },
      false)

/-- `RemovePreconditionsIfNotSupport` for one media. -/
def removePreconditions (media peerMedia : SdpMediaParameter) : SdpMediaParameter :=
  if peerMedia.qosPreconditionPresent then media else { media with qosPreconditionPresent := false }

def removePreconditionsIfNotSupport (n : Negotiation S) : Negotiation S :=
  { n with proposalView := { n.proposalView with
      mediaParams := n.proposalView.mediaParams.mapIdx fun i media =>
        match n.peerView.mediaParams[i]? with
        | none => media
        | some peerMedia => removePreconditions media peerMedia } }

/-- What `GenerateAnswer` and `ProcessAnswer` share; the flags are F_MEDIA_PARAM and
F_MEDIA_GROUP, and `none` is an access that throws. -/
def negotiate (ops : SessionLevelOps S D M) (bInitialOffer bIsOffer mediaParam mediaGroup : Bool)
    (s peer proposalView peerView : SessionParameter S) :
    Option (Negotiation S × NegotiationResult) :=
  let compared := s.compareSessionParameters ops bIsOffer peer (proposalView.clear ops)
    (peerView.clear ops)
  let n := compared.1
  if !compared.2 then some (n, .failure)
  else do
    let negotiated ← s.compareMediaGroups peer n.proposalView mediaGroup
    match negotiated with
    | none => return (n, .failure)
    | some proposalView =>
      let n := { n with proposalView }
      if !mediaParam then return (n, .success)
      else
        let n := n.compareMedias bInitialOffer bIsOffer 0 peer.mediaParams
        return (if n.result = .qosPreconditionPresent then removePreconditionsIfNotSupport n else n,
          n.result)

def generateAnswer (ops : SessionLevelOps S D M) (s offer proposalView peerView : SessionParameter S)
    (mediaParam mediaGroup bInitialOffer : Bool) : Option (Negotiation S × NegotiationResult) :=
  s.negotiate ops bInitialOffer true mediaParam mediaGroup offer proposalView peerView

/-- `ProcessAnswer`; the medias are always compared. -/
def processAnswer (ops : SessionLevelOps S D M) (s answer proposalView peerView : SessionParameter S)
    (mediaGroup : Bool) : Option (Negotiation S × NegotiationResult) :=
  s.negotiate ops false false true mediaGroup answer proposalView peerView

/-- `GenerateAnswer` that copies the offer. -/
def copyOffer (ops : SessionLevelOps S D M) (s offer : SessionParameter S) : Negotiation S :=
  let proposal := s.copy
  { self := s
    peerView := { offer.copy with remoteVersion := some (ops.sessionVersion s.sessionParam) }
    proposalView :=
      { proposal with
        remoteVersion := some (ops.sessionVersion offer.sessionParam)
        sessionParam := ops.updateDirection
          (ops.updateDirectionFrom proposal.sessionParam offer.sessionParam)
        lastMid := offer.lastMid
        mediaGroups := offer.mediaGroups.map SdpMediaGroup.copy
        mediaParams := proposal.mediaParams ++
          offer.mediaParams.map SdpMediaParameter.updateDirection } }

end SessionParameter

end ImsStack.OfferAnswer
