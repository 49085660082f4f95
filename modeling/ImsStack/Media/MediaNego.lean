import ImsStack.Media.BaseNego
import Mathlib.Logic.Function.Basic

/-!
`MediaNego`: the audio, video and text negotiators of a session behind one negotiation state.
`FormSdp` chooses a media line for each media and has it written, `NegotiateSdp` gives each media
its line of the peer, `FinalizeNegotiation` goes back to what was negotiated.
-/

namespace ImsStack.Media

universe u

variable {P X R D : Type u}

inductive SdpMediaType where
  | invalid | audio | video | text | application | message | other
  deriving DecidableEq, Repr

namespace SdpMediaType

def media? : SdpMediaType → Option MediaType
  | audio => some .audio
  | video => some .video
  | text => some .text
  | _ => none

end SdpMediaType

/-- A media line, `SdpMedia`. -/
structure MediaLine where
  eType : SdpMediaType
  nPort : Int
  deriving DecidableEq, Repr

inductive ServiceType where
  | default | emergency | other
  deriving DecidableEq, Repr

structure MediaEnvironment (P X R D : Type u) where
  eServiceType : ServiceType
  bSessionLevelBandwidth : Bool
  negotiator : MediaType → MediaNegotiator P X R D

structure MediaNego (P X R : Type u) where
  eNegoState : NegoState
  bPreviewMode : Bool
  nego : MediaType → BaseNego P X R

/-- What a description is asked to have. -/
structure SdpRequest where
  bRequested : MediaType → Bool
  eDirection : MediaType → MediaDirection
  bEnforceReofferMode : Bool

/-- A media line as it is written. -/
structure MediaWrite (P X R : Type u) where
  eType : MediaType
  nLine : Nat
  profile : MediaBaseProfile P X R

namespace MediaNego

variable (env : MediaEnvironment P X R D)

def setNego (x : MediaNego P X R) (m : MediaType) (nego : BaseNego P X R) : MediaNego P X R :=
  { x with nego := Function.update x.nego m nego }

def updateNegoState (x : MediaNego P X R) (bFormSdp : Bool) : MediaNego P X R :=
  { x with
    eNegoState :=
      match x.eNegoState with
      | .idle =>
          if x.bPreviewMode && !bFormSdp then .negotiated
          else if bFormSdp then .offerSent else .offerReceived
      | .negotiated =>
          if x.bPreviewMode && !bFormSdp then .negotiated
          else if bFormSdp then .offerSent else .offerReceived
      | .offerReceived => if bFormSdp then .negotiated else .offerReceived
      | .offerSent => if bFormSdp then .offerSent else .negotiated }

/-! ### The media lines -/

/-- The media that have to be made: a new offer also has those that were negotiated before. -/
def needToMakeMedia (x : MediaNego P X R) (request : SdpRequest) (m : MediaType) : Bool :=
  request.bRequested m ||
    (decide (x.eNegoState = .negotiated) && decide ((x.nego m).getNegotiatedRtpPort ≠ -1))

/-- `CreateIMediaListFromSession`: lines are created for their count only. -/
def createMediaLines (x : MediaNego P X R) (need : MediaType → Bool) (lines : List MediaLine) :
    List MediaLine :=
  let nCountMediaRequired :=
    if (x.eNegoState = .idle ∨ x.eNegoState = .negotiated) ∧ env.eServiceType ≠ .other then
      MediaType.all.countP need
    else 0
  lines ++ List.replicate (nCountMediaRequired - lines.length) ⟨.invalid, 0⟩

/-- The lines of a first offer, one after the other. -/
def descriptorsInOrder (need : MediaType → Bool) (nSize : Nat) :
    List MediaType → Nat → MediaType → Option Nat
  | [], _ => fun _ => none
  | m :: rest, nMediaLineCounter =>
      if need m = true ∧ nMediaLineCounter < nSize then
        Function.update (descriptorsInOrder need nSize rest (nMediaLineCounter + 1)) m
          (some nMediaLineCounter)
      else descriptorsInOrder need nSize rest nMediaLineCounter

/-- The line that a media has, and whether it keeps it. -/
structure MLineChoice where
  pDescriptor : Option Nat
  bMLineSetted : Bool
  deriving DecidableEq, Repr

/-- A line whose port is 0 in an offer is replaced with another one. -/
def isReplaced (eNegoState : NegoState) (line : MediaLine) : Bool :=
  decide (eNegoState = .offerReceived) && decide (line.nPort = 0)

/-- A line that is not typed is taken by each media that needs one, unless it is replaced. -/
def takeUntyped (eNegoState : NegoState) (need : MediaType → Bool) (nAt : Nat) (line : MediaLine) :
    List MediaType → (MediaType → MLineChoice) → MediaType → MLineChoice
  | [], choices => choices
  | m :: rest, choices =>
      if need m = true ∧ (choices m).bMLineSetted = false then
        if isReplaced eNegoState line then Function.update choices m ⟨some nAt, false⟩
        else
          takeUntyped eNegoState need nAt line rest
            (Function.update choices m ⟨some nAt, true⟩)
      else takeUntyped eNegoState need nAt line rest choices

def takeLine (eNegoState : NegoState) (need : MediaType → Bool) (nAt : Nat) (line : MediaLine)
    (choices : MediaType → MLineChoice) : MediaType → MLineChoice :=
  match line.eType.media? with
  | some m =>
      if (choices m).bMLineSetted then choices
      else Function.update choices m ⟨some nAt, !isReplaced eNegoState line⟩
  | none => takeUntyped eNegoState need nAt line MediaType.all choices

def takeLines (eNegoState : NegoState) (need : MediaType → Bool) :
    Nat → List MediaLine → (MediaType → MLineChoice) → MediaType → MLineChoice
  | _, [], choices => choices
  | nAt, line :: rest, choices =>
      takeLines eNegoState need (nAt + 1) rest (takeLine eNegoState need nAt line choices)

def descriptors (eNegoState : NegoState) (need : MediaType → Bool) (lines : List MediaLine)
    (m : MediaType) : Option Nat :=
  if eNegoState = .idle then descriptorsInOrder need lines.length MediaType.all 0 m
  else (takeLines eNegoState need 0 lines (fun _ => ⟨none, false⟩) m).pDescriptor

/-! ### `FormSdp` -/

/-- `FormSdp` on its way through the media. -/
structure SdpForm (P X R : Type u) where
  mediaNego : MediaNego P X R
  objWritten : List (MediaWrite P X R)
  nTotalAs : Int
  bFormed : Bool

/-- The AS value replaces the one before; that of audio counts although it is not requested. -/
def processMediaLine (request : SdpRequest) (eNegoState : NegoState)
    (pDescriptor : MediaType → Option Nat) :
    List MediaType → SdpForm P X R → SdpForm P X R
  | [], form => form
  | m :: rest, form =>
      match pDescriptor m with
      | none => processMediaLine request eNegoState pDescriptor rest form
      | some nLine =>
          match (form.mediaNego.nego m).formSdp (env.negotiator m) m eNegoState
              (request.eDirection m) (!request.bRequested m) request.bEnforceReofferMode with
          | none => { form with bFormed := false }
          | some formed =>
              let nTmpAs := formed.1.getNegotiatedBandwidth
              processMediaLine request eNegoState pDescriptor rest
                { form with
                  mediaNego := form.mediaNego.setNego m formed.1
                  objWritten := form.objWritten ++ [⟨m, nLine, formed.2⟩]
                  nTotalAs :=
                    if (m = .audio ∨ request.bRequested m = true) ∧ 0 < nTmpAs then nTmpAs
                    else form.nTotalAs }

/-- The session that is written: its media lines before, what is written to them, and the
bandwidth of the session, if it is written. -/
structure FormedSdp (P X R : Type u) where
  objLines : List MediaLine
  objWritten : List (MediaWrite P X R)
  objBandwidth : Option Int

/-- The description is none where it is not formed. -/
def formSdp (x : MediaNego P X R) (request : SdpRequest) (lines : List MediaLine) :
    MediaNego P X R × Option (FormedSdp P X R) :=
  if x.eNegoState = .offerSent ∨ x.bPreviewMode = true then (x, none)
  else
    let need := x.needToMakeMedia request
    let objLines := x.createMediaLines env need lines
    let form := processMediaLine env request x.eNegoState (descriptors x.eNegoState need objLines)
      MediaType.all ⟨x, [], 0, true⟩
    if form.bFormed then
      (form.mediaNego.updateNegoState true,
        some ⟨objLines, form.objWritten,
          if env.bSessionLevelBandwidth then some form.nTotalAs else none⟩)
    else (form.mediaNego, none)

/-! ### `NegotiateSdp` -/

/-- A line of the peer; there may be no descriptor of it. -/
structure PeerLine (D : Type u) where
  eType : SdpMediaType
  descriptor : D
  bIpVersionMatches : Bool
  nRemotePort : Int

/-- The line of each media is the first one of its type. -/
structure SdpNegotiation (P X R : Type u) where
  mediaNego : MediaNego P X R
  bDescriptorTaken : MediaType → Bool

def updateMediaDescriptor (negotiation : SdpNegotiation P X R) (line : PeerLine D) :
    SdpNegotiation P X R :=
  match line.eType.media? with
  | none => negotiation
  | some m =>
      if negotiation.bDescriptorTaken m then negotiation
      else
        { mediaNego := negotiation.mediaNego.setNego m
            ((negotiation.mediaNego.nego m).negotiateSdp (env.negotiator m)
              negotiation.mediaNego.eNegoState line.descriptor)
          bDescriptorTaken := Function.update negotiation.bDescriptorTaken m true }

def negotiateLine (negotiation : SdpNegotiation P X R) (line : Option (PeerLine D)) :
    SdpNegotiation P X R :=
  match line with
  | none => negotiation
  | some line =>
      if line.bIpVersionMatches = false ∧ line.nRemotePort ≠ 0 then negotiation
      else updateMediaDescriptor env negotiation line

/-- The least port of a media whose quality is asked for. -/
def leastRtpPort (m : MediaType) : Int := if m = .audio then 0 else 1

/-- `GetNegotiatedAudioQuality` and its like; the payloads of a rejected media may be filled. -/
def fillForQuality (x : MediaNego P X R) : MediaNego P X R :=
  { x with
    nego := fun m =>
      if (x.nego m).getNegotiatedRtpPort < leastRtpPort m then x.nego m
      else (x.nego m).fillNegotiatedPayload }

/-- Of a negotiator whose payloads are filled. -/
def isQualityUsed (x : MediaNego P X R) (m : MediaType) : Bool :=
  decide (leastRtpPort m ≤ (x.nego m).getNegotiatedRtpPort) &&
    decide ((x.nego m).getNegotiatedQuality (env.negotiator m) = .used)

/-- The media that are reported as negotiated. -/
def negotiateSdp (x : MediaNego P X R) (lines : List (Option (PeerLine D))) (bPreview : Bool) :
    MediaNego P X R × (MediaType → Bool) :=
  let x := (lines.foldl (negotiateLine env) ⟨x, fun _ => false⟩).mediaNego.fillForQuality
  let negotiated := x.isQualityUsed env
  if MediaType.all.any negotiated then
    ({ x.updateNegoState false with bPreviewMode := bPreview }, negotiated)
  else (x, negotiated)

/-! ### `FinalizeNegotiation` -/

def finalizeNegotiation (x : MediaNego P X R) : MediaNego P X R :=
  let nego := fun m => (x.nego m).cleanupIncompleteOaModels.fillNegotiatedPayload
  let bNegotiated := MediaType.all.any fun m =>
    decide ((nego m).getNegotiatedQuality (env.negotiator m) ≠ .none)
  { x with
    nego := nego
    eNegoState := if bNegotiated ∧ x.eNegoState ≠ .idle then .negotiated else .idle }

end MediaNego

end ImsStack.Media
