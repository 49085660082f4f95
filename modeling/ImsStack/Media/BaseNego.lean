import Mathlib.Logic.Basic
import Mathlib.Data.List.Basic

/-!
The negotiators of one media: `BaseNego` and what `AudioNego`, `VideoNego` and `TextNego` do
otherwise.  Each keeps the offers and answers it had, with the profiles of either side and the
one they negotiated.  How a media description is parsed and how two profiles are negotiated is
given.
-/

namespace ImsStack.Media

universe u

inductive MediaType where
  | audio | video | text
  deriving DecidableEq, Repr

namespace MediaType

def all : List MediaType := [audio, video, text]

@[simp]
theorem mem_all (m : MediaType) : m ∈ all := by
  cases m <;> decide

end MediaType

inductive MediaDirection where
  | invalid | inactive | receive | send | sendReceive
  deriving DecidableEq, Repr

inductive NegoState where
  | idle | offerReceived | offerSent | negotiated
  deriving DecidableEq, Repr

/-- `MediaBaseProfile` with payloads `P`, RTCP-XR attributes `X` and the data `R` that the
negotiators only copy. -/
structure MediaBaseProfile (P X R : Type u) where
  nDataPort : Nat
  nControlPort : Nat
  nBandwidthAs : Int
  nBandwidthRs : Int
  nBandwidthRr : Int
  eDirection : MediaDirection
  nNegotiatedPayloadIndex : Int
  lstPayload : List P
  bSupportRtcpXr : Bool
  objRtcpXrAttr : X
  rest : R
  deriving DecidableEq, Repr

structure MediaConfiguration where
  nRtcpIntervalOnHold : Int
  nRrBandwidthBps : Int
  nRsBandwidthBps : Int
  bSdpReofferFullCapability : Bool
  deriving DecidableEq, Repr

def MEDIA_DEFAULT_RS : Int := 1250
def MEDIA_DEFAULT_RR : Int := 3750

/-- What `GetNegotiatedCodec` and `GetNegotiatedResolution` say of a payload. -/
inductive MediaQuality where
  | none | notUsed | used
  deriving DecidableEq, Repr

/-- How the media descriptions `D` of one media are read and its profiles negotiated: the parsed
profile, and the local, the peer and the negotiated profile after the negotiation. -/
structure MediaNegotiator (P X R : Type u) (D : Type u) where
  config : MediaConfiguration
  parse : D → Option (MediaBaseProfile P X R)
  negotiate : MediaBaseProfile P X R → MediaBaseProfile P X R → Bool →
    Option (MediaBaseProfile P X R × MediaBaseProfile P X R × MediaBaseProfile P X R)
  quality : P → MediaQuality

structure OaModel (P X R : Type u) where
  pLocalProfile : Option (MediaBaseProfile P X R)
  pPeerProfile : Option (MediaBaseProfile P X R)
  pNegotiatedProfile : Option (MediaBaseProfile P X R)
  deriving DecidableEq, Repr

structure BaseNego (P X R : Type u) where
  pBaseProfile : Option (MediaBaseProfile P X R)
  listOaModel : List (OaModel P X R)
  deriving DecidableEq, Repr

variable {P X R D : Type u}

namespace MediaBaseProfile

def setPorts (profile : MediaBaseProfile P X R) (nDataPort nControlPort : Nat) :
    MediaBaseProfile P X R :=
  { profile with nDataPort := nDataPort, nControlPort := nControlPort }

def setDirection (profile : MediaBaseProfile P X R) (eDirection : MediaDirection) :
    MediaBaseProfile P X R :=
  { profile with eDirection := eDirection }

/-- `MediaProfileUtil::SetRtcpRsRr`. -/
def setRtcpRsRr (config : MediaConfiguration) (bDirHold : Bool) (profile : MediaBaseProfile P X R) :
    MediaBaseProfile P X R :=
  if bDirHold = true ∧ 0 < config.nRtcpIntervalOnHold ∧ config.nRrBandwidthBps = 0 then
    { profile with nBandwidthRr := MEDIA_DEFAULT_RR, nBandwidthRs := MEDIA_DEFAULT_RS }
  else
    { profile with
      nBandwidthRr := config.nRrBandwidthBps
      nBandwidthRs := config.nRsBandwidthBps }

def payloadAt (profile : MediaBaseProfile P X R) (nIndex : Int) : Option P :=
  profile.lstPayload[nIndex.toNat]?

/-- The payload that `GetNegotiatedPayload` takes. -/
def negotiatedPayload (profile : MediaBaseProfile P X R) : Option P :=
  if 0 < profile.nNegotiatedPayloadIndex then profile.payloadAt profile.nNegotiatedPayloadIndex
  else profile.payloadAt 0

end MediaBaseProfile

namespace OaModel

def isAllProfileExist (model : OaModel P X R) : Bool :=
  model.pLocalProfile.isSome && model.pPeerProfile.isSome && model.pNegotiatedProfile.isSome

def mapNegotiatedProfile (f : MediaBaseProfile P X R → MediaBaseProfile P X R)
    (model : OaModel P X R) : OaModel P X R :=
  { model with pNegotiatedProfile := model.pNegotiatedProfile.map f }

end OaModel

/-- `UpdateDirectionToMine` of the video negotiator. -/
def updateDirectionToMine (ePeerDirection eLocalDirection : MediaDirection) (bIsMtCase : Bool) :
    MediaDirection :=
  let eNegotiatedDir : MediaDirection :=
    match ePeerDirection with
    | .inactive => .inactive
    | .sendReceive => .sendReceive
    | .receive => .send
    | .send => .receive
    | .invalid => .invalid
  if bIsMtCase then eNegotiatedDir
  else if (eLocalDirection = .send ∧ (ePeerDirection = .send ∨ ePeerDirection = .sendReceive)) ∨
      (eLocalDirection = .receive ∧
        (ePeerDirection = .receive ∨ ePeerDirection = .sendReceive)) ∨
      (eLocalDirection = .inactive ∧ ePeerDirection ≠ .inactive) then .invalid
  else eNegotiatedDir

namespace BaseNego

variable (negotiator : MediaNegotiator P X R D)

def append (nego : BaseNego P X R) (model : OaModel P X R) : BaseNego P X R :=
  { nego with listOaModel := nego.listOaModel ++ [model] }

/-- The last of the models that are complete. -/
def getNegotiatedOaModel (nego : BaseNego P X R) : Option (OaModel P X R) :=
  (nego.listOaModel.filter OaModel.isAllProfileExist).getLast?

/-- The list with the last of the models that are complete changed. -/
def updateLastComplete (f : OaModel P X R → OaModel P X R) :
    List (OaModel P X R) → List (OaModel P X R)
  | [] => []
  | model :: rest =>
      if rest.any OaModel.isAllProfileExist then model :: updateLastComplete f rest
      else if model.isAllProfileExist then f model :: rest
      else model :: rest

def getNegotiatedRtpPort (nego : BaseNego P X R) : Int :=
  match nego.getNegotiatedOaModel.bind OaModel.pNegotiatedProfile with
  | none => -1
  | some profile => profile.nDataPort

def getNegotiatedBandwidth (nego : BaseNego P X R) : Int :=
  match nego.listOaModel.getLast? with
  | none => -1
  | some model =>
      match model.pLocalProfile with
      | none => -1
      | some localProfile => (model.pNegotiatedProfile.getD localProfile).nBandwidthAs

/-- The payloads that `GetNegotiatedPayload` gives a rejected media that has none. -/
def fillPayloads (model : OaModel P X R) : OaModel P X R :=
  match model.pLocalProfile, model.pNegotiatedProfile with
  | some localProfile, some profile =>
      if profile.lstPayload = [] ∧ profile.nDataPort = 0 then
        { model with
          pNegotiatedProfile := some { profile with lstPayload := localProfile.lstPayload } }
      else model
  | _, _ => model

/-- `GetNegotiatedPayload` as it leaves the negotiator. -/
def fillNegotiatedPayload (nego : BaseNego P X R) : BaseNego P X R :=
  { nego with listOaModel := updateLastComplete fillPayloads nego.listOaModel }

/-- `GetNegotiatedPayload` of the negotiator that it leaves. -/
def getNegotiatedPayload (nego : BaseNego P X R) : Option P :=
  match nego.getNegotiatedOaModel.bind OaModel.pNegotiatedProfile with
  | none => none
  | some profile => profile.negotiatedPayload

def getNegotiatedQuality (nego : BaseNego P X R) : MediaQuality :=
  match nego.getNegotiatedPayload with
  | none => .none
  | some payload => negotiator.quality payload

/-! ### Offers and answers that are formed -/

def checkArgument (nego : BaseNego P X R) (eDirection : MediaDirection) : Bool :=
  nego.pBaseProfile.isSome && decide (eDirection ≠ .invalid)

/-- The local profile of `CreateOaModel`. -/
def createLocalProfile (eType : MediaType) (base : MediaBaseProfile P X R)
    (eDirection : MediaDirection) (bDisable : Bool) : MediaBaseProfile P X R :=
  let profile := if eDirection ≠ .invalid then base.setDirection eDirection else base
  let profile := if bDisable then profile.setPorts 0 0 else profile
  if eType = .text then profile else profile.setRtcpRsRr negotiator.config false

/-- The negotiator and the profile that is written, if it is. -/
def formOffer (eType : MediaType) (nego : BaseNego P X R) (eDirection : MediaDirection)
    (bDisable : Bool) : Option (BaseNego P X R × MediaBaseProfile P X R) :=
  match nego.pBaseProfile with
  | none => none
  | some base =>
      if eDirection = .invalid then none
      else
        let profile := createLocalProfile negotiator eType base eDirection bDisable
        some (nego.append ⟨some profile, none, none⟩, profile)

/-- The change that `FormAnswer` makes to the profile that was negotiated. -/
def answerProfile (eType : MediaType) (model : OaModel P X R) (eDirection : MediaDirection)
    (bDisable : Bool) (profile : MediaBaseProfile P X R) : MediaBaseProfile P X R :=
  let profile := if bDisable then profile.setPorts 0 0 else profile
  match eType with
  | .audio => profile.setDirection eDirection
  | .video =>
      if eDirection ≠ .invalid then profile.setDirection eDirection
      else
        match model.pPeerProfile, model.pLocalProfile with
        | some peer, some localProfile =>
            profile.setDirection
              (updateDirectionToMine peer.eDirection localProfile.eDirection false)
        | _, _ => profile
  | .text => profile

/-- Whether `FormAnswer` takes the direction. -/
def checkAnswer (eType : MediaType) (nego : BaseNego P X R) (eDirection : MediaDirection)
    (bDisable : Bool) : Bool :=
  match eType with
  | .audio => nego.checkArgument eDirection
  | .video => decide (eDirection ≠ .invalid) || bDisable
  | .text => true

def formAnswer (eType : MediaType) (nego : BaseNego P X R) (eDirection : MediaDirection)
    (bDisable : Bool) : Option (BaseNego P X R × MediaBaseProfile P X R) :=
  if !nego.checkAnswer eType eDirection bDisable then none
  else
    match nego.getNegotiatedOaModel with
    | none => none
    | some model =>
        let answer := answerProfile eType model eDirection bDisable
        model.pNegotiatedProfile.map fun profile =>
          ({ nego with
              listOaModel := updateLastComplete (OaModel.mapNegotiatedProfile answer)
                nego.listOaModel },
            answer profile)

/-- What is done to each profile of a new audio offer. -/
def updateReofferProfile (base : MediaBaseProfile P X R) (eDirection : MediaDirection)
    (bDisable : Bool) (profile : MediaBaseProfile P X R) : MediaBaseProfile P X R :=
  let profile := (profile.setDirection eDirection).setRtcpRsRr negotiator.config
    (decide (eDirection ≠ .sendReceive))
  let profile :=
    if bDisable then profile.setPorts 0 0 else profile.setPorts base.nDataPort base.nControlPort
  if base.bSupportRtcpXr = true ∧ eDirection = .sendReceive then
    { profile with bSupportRtcpXr := true, objRtcpXrAttr := base.objRtcpXrAttr }
  else profile

def withDefaultAs (base profile : MediaBaseProfile P X R) : MediaBaseProfile P X R :=
  if profile.nBandwidthAs ≤ 0 then { profile with nBandwidthAs := base.nBandwidthAs } else profile

/-- The local profile of the new model, and the profile that is written. -/
def formAudioReoffer (nego : BaseNego P X R) (eDirection : MediaDirection)
    (bDisable bEnforceReofferMode : Bool) : Option (BaseNego P X R × MediaBaseProfile P X R) :=
  match nego.pBaseProfile with
  | none => none
  | some base =>
      if eDirection = .invalid then none
      else
        let update := updateReofferProfile negotiator base eDirection bDisable
        let prev := nego.getNegotiatedOaModel
        let prevLocal := (prev.bind OaModel.pLocalProfile).getD base
        match prev.bind OaModel.pNegotiatedProfile with
        | none =>
            let profile := update (withDefaultAs base base)
            some (nego.append ⟨some profile, none, none⟩, profile)
        | some prevNegotiated =>
            if prevNegotiated.nDataPort = 0 ∨
                ¬(bEnforceReofferMode || negotiator.config.bSdpReofferFullCapability) = true then
              some (nego.append ⟨some (update prevLocal), none, none⟩,
                update (withDefaultAs base prevNegotiated))
            else
              let profile := update (withDefaultAs base prevLocal)
              some (nego.append ⟨some profile, none, none⟩, profile)

/-- The profile that a new video or text offer starts from, and whether it is the base one. -/
def reofferSource (eType : MediaType) (nego : BaseNego P X R) (base : MediaBaseProfile P X R)
    (bDisable bEnforceReofferMode : Bool) : Option (MediaBaseProfile P X R × Bool) :=
  if nego.listOaModel = [] then some (base, true)
  else
    (nego.getNegotiatedOaModel.bind OaModel.pNegotiatedProfile).map fun prevNegotiated =>
      if (prevNegotiated.nDataPort = 0 ∧ bDisable = false) ∨ bEnforceReofferMode = true ∨
          (eType = .video ∧ negotiator.config.bSdpReofferFullCapability = true) then (base, true)
      else (prevNegotiated, false)

def formVideoReoffer (nego : BaseNego P X R) (eDirection : MediaDirection)
    (bDisable bEnforceReofferMode : Bool) : Option (BaseNego P X R × MediaBaseProfile P X R) :=
  match nego.pBaseProfile with
  | none => none
  | some base =>
      if eDirection = .invalid ∧ bDisable = false then none
      else
        (reofferSource negotiator .video nego base bDisable bEnforceReofferMode).map fun source =>
          let profile :=
            if bDisable then source.1.setPorts 0 0
            else source.1.setPorts base.nDataPort base.nControlPort
          let profile :=
            if eDirection ≠ .invalid then profile.setDirection eDirection
            else profile.setPorts 0 0
          let profile := profile.setRtcpRsRr negotiator.config false
          (nego.append ⟨some profile, none, none⟩, profile)

def formTextReoffer (nego : BaseNego P X R) (eDirection : MediaDirection)
    (bDisable bEnforceReofferMode : Bool) : Option (BaseNego P X R × MediaBaseProfile P X R) :=
  match nego.pBaseProfile with
  | none => none
  | some base =>
      if eDirection = .invalid ∧ bDisable = false then none
      else
        (reofferSource negotiator .text nego base bDisable bEnforceReofferMode).map fun source =>
          let profile :=
            if eDirection ≠ .invalid then source.1.setDirection eDirection else source.1
          let profile :=
            if bDisable then
              { profile.setPorts 0 0 with nBandwidthAs := 0, nBandwidthRs := 0, nBandwidthRr := 0 }
            else
              let profile :=
                { profile.setPorts base.nDataPort base.nControlPort with
                  nBandwidthAs := base.nBandwidthAs }
              if source.2 then
                { profile with
                  nBandwidthRs := negotiator.config.nRsBandwidthBps
                  nBandwidthRr := negotiator.config.nRrBandwidthBps }
              else profile
          (nego.append ⟨some profile, none, none⟩, profile)

def formReoffer (eType : MediaType) (nego : BaseNego P X R) (eDirection : MediaDirection)
    (bDisable bEnforceReofferMode : Bool) : Option (BaseNego P X R × MediaBaseProfile P X R) :=
  match eType with
  | .audio => formAudioReoffer negotiator nego eDirection bDisable bEnforceReofferMode
  | .video => formVideoReoffer negotiator nego eDirection bDisable bEnforceReofferMode
  | .text => formTextReoffer negotiator nego eDirection bDisable bEnforceReofferMode

def formSdp (eType : MediaType) (eNegoState : NegoState) (nego : BaseNego P X R)
    (eDirection : MediaDirection) (bDisable bEnforceReofferMode : Bool) :
    Option (BaseNego P X R × MediaBaseProfile P X R) :=
  match eNegoState with
  | .idle => formOffer negotiator eType nego eDirection bDisable
  | .offerReceived => formAnswer eType nego eDirection bDisable
  | .negotiated => formReoffer negotiator eType nego eDirection bDisable bEnforceReofferMode
  | .offerSent => none

/-! ### Offers and answers that are received -/

/-- The model of a description that is accepted for a local profile. -/
def accept (localProfile : MediaBaseProfile P X R) (descriptor : D) (bIsOfferReceived : Bool) :
    Option (OaModel P X R) :=
  (negotiator.parse descriptor).bind fun peer =>
    (negotiator.negotiate localProfile peer bIsOfferReceived).map fun negotiated =>
      ⟨some negotiated.1, some negotiated.2.1, some negotiated.2.2⟩

def negotiateOffer (nego : BaseNego P X R) (descriptor : D) : BaseNego P X R :=
  match nego.pBaseProfile with
  | none => nego
  | some base =>
      match accept negotiator base descriptor true with
      | none => nego
      | some model => nego.append model

/-- An answer that is not accepted removes the last model. -/
def negotiateAnswer (nego : BaseNego P X R) (descriptor : D) : BaseNego P X R :=
  match nego.listOaModel.getLast? with
  | none => nego
  | some last =>
      let before := { nego with listOaModel := nego.listOaModel.dropLast }
      match last.pLocalProfile.bind fun localProfile =>
          accept negotiator localProfile descriptor false with
      | none => before
      | some model => before.append model

def negotiateSdp (eNegoState : NegoState) (nego : BaseNego P X R) (descriptor : D) :
    BaseNego P X R :=
  match eNegoState with
  | .idle => nego.negotiateOffer negotiator descriptor
  | .negotiated => nego.negotiateOffer negotiator descriptor
  | .offerSent => nego.negotiateAnswer negotiator descriptor
  | .offerReceived => nego

/-- The last model, if it is not complete, is removed. -/
def cleanupIncompleteOaModels (nego : BaseNego P X R) : BaseNego P X R :=
  match nego.listOaModel.getLast? with
  | none => nego
  | some last =>
      if last.isAllProfileExist then nego
      else { nego with listOaModel := nego.listOaModel.dropLast }

/-- The negotiator of a forked dialog. -/
def fork (nego : BaseNego P X R) : BaseNego P X R :=
  { nego with listOaModel := [⟨nego.pBaseProfile, none, none⟩] }

end BaseNego

end ImsStack.Media
