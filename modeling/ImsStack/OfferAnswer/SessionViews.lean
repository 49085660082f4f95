import ImsStack.OfferAnswer.HandleOfferAnswer

/-!
The views that `SdpOaState` keeps of the session, and the operations that create, move and delete
them.  An operation that dereferences a view that is not there is `none`.
-/

namespace ImsStack.OfferAnswer

open Platform.AString Sdp

/-- What comes of an offer or answer: the views of both sides, and the session parameters that it
was compared with. -/
structure Negotiated (P : Type) where
  self : P
  proposalView : P
  peerView : P
  result : OfferAnswerResult

/-- What `SdpOaState` calls of `SessionParameter`. -/
structure SessionParameterOps (P : Type) where
  create : SdpParser → Option P
  getMediaCount : P → Nat
  /-- The session version in the origin field. -/
  getSessionVersion : P → Chars
  getRemoteVersion : P → Chars
  updateRemoteVersion : P → Chars → P
  isSameVersion : P → P → Bool
  increaseSessionVersion : P → P
  isLastSdpProvidedWithNegotiatedSdp : P → Bool
  setLastSdpProvidedWithNegotiatedSdp : P → Bool → P
  updateDirection : P → P → P
  /-- `GenerateAnswer` that copies the offer. -/
  copyOffer : P → P → Negotiated P
  /-- `GenerateAnswer` with F_MEDIA_PARAM, F_MEDIA_GROUP and whether the offer is the first one. -/
  generateAnswer : P → P → Bool → Bool → Bool → Negotiated P
  processAnswer : P → P → Negotiated P

/-- `SdpOaState::OFFER_*`. -/
inductive OfferType where
  | invalid | new | refresh | change
  deriving DecidableEq, Repr

/-- `ISdpOaState::RESULT_*`, as far as `CreateProposalView` returns them. -/
inductive ProposalResult where
  | success | error | invalidState | alreadyExist
  deriving DecidableEq, Repr

/-- Where the current capabilities are found. -/
inductive View where
  | capabilities | lastOfferMade | currentView
  deriving DecidableEq, Repr

def OfferAnswerResult.failed : OfferAnswerResult → Bool
  | .notDone | .failure | .notFound => true
  | _ => false

namespace SdpOaState

variable {P : Type}

def viewAt (s : SdpOaState P) : View → Option P
  | .capabilities => some s.capabilities
  | .lastOfferMade => s.lastOfferMade
  | .currentView => s.currentView

def putView (s : SdpOaState P) (param : P) : View → SdpOaState P
  | .capabilities => { s with capabilities := param }
  | .lastOfferMade => { s with lastOfferMade := some param }
  | .currentView => { s with currentView := some param }

/-- `GetCurrentCapabilities`. -/
def currentCapabilities (s : SdpOaState P) : View :=
  match s.state with
  | .established | .offerChangeReceived =>
    if s.lastOfferMade.isSome then .lastOfferMade else .currentView
  | .offerReceived => .capabilities
  | _ => .currentView

def abortProposal (s : SdpOaState P) : SdpOaState P :=
  match s.proposalView with
  | none => s
  | some _ => { s with proposalView := none, mode := .idle, offerProgress := false }

/-- `CreateCapabilities`; `capabilities` is what `m_pCapabilities->Create` makes of the service's
address and media profile, and `created` what it returns. -/
def createCapabilities (s : SdpOaState P) (capabilities : P) (created : Bool) :
    SdpOaState P × Bool :=
  if s.state ≠ .idle ∧ s.state ≠ .offerReceived then (s, false)
  else ({ s with capabilities := capabilities }, created)

def completeExchange (ops : SessionParameterOps P) (s : SdpOaState P) : SdpOaState P :=
  let s := match s.state, s.proposalView with
    | .established, some proposal =>
      { s with
        currentView := some proposal
        lastOfferMade :=
          if s.mode = Mode.answerer then
            s.lastOfferMade.map fun last =>
              ops.updateRemoteVersion (ops.updateDirection last proposal)
                (ops.getRemoteVersion proposal)
          else s.lastOfferMade }
    | _, _ => s
  { s with proposalView := none, mode := .idle, stateChanged := false }

def restoreState (s : SdpOaState P) : SdpOaState P :=
  { s with
    proposalView := none
    mode := .idle
    stateChanged := false
    offerProgress := false
    state := match s.state with
      | .offerSent | .offerReceived => .idle
      | .offerChangeSent | .offerChangeReceived => .established
      | state => state }

def increaseSessionVersion (ops : SessionParameterOps P) (s : SdpOaState P) :
    Option (SdpOaState P) := do
  let current ← s.currentView
  return { s with
    currentView := some (ops.increaseSessionVersion current)
    capabilities := ops.increaseSessionVersion s.capabilities
    lastOfferMade := s.lastOfferMade.map ops.increaseSessionVersion }

/-- The offer of a type, and what `IncreaseSessionVersion` makes of the views. -/
def offerOf (ops : SessionParameterOps P) (s : SdpOaState P) :
    OfferType → Option (SdpOaState P × P)
  | .refresh => do
    let current ← s.currentView
    return (s, current)
  | .change => do
    let current ← s.currentView
    let s ← if s.alwaysIncreaseSdpVersion then s.increaseSessionVersion ops else some s
    return (s, ops.increaseSessionVersion current)
  | _ => some (s, s.capabilities)

def initiateOffer (ops : SessionParameterOps P) (s : SdpOaState P) (nType : OfferType) :
    Option (SdpOaState P × Bool) :=
  if nType = .invalid then some (s, false)
  else if s.state ≠ .idle ∧ s.state ≠ .established then some (s, false)
  else do
    let offer ← s.offerOf ops nType
    return ({ offer.1 with
      proposalView := some offer.2, mode := .offerer, offerProgress := true }, true)

def createProposalView (ops : SessionParameterOps P) (s : SdpOaState P) :
    Option (SdpOaState P × ProposalResult) :=
  if s.state ≠ .idle ∧ s.state ≠ .offerReceived ∧ s.state ≠ .established ∧
      s.state ≠ .offerChangeReceived then some (s, .invalidState)
  else if s.proposalView.isSome then some (s, .alreadyExist)
  else do
    let initiated ← s.initiateOffer ops .change
    return (initiated.1, if initiated.2 then .success else .error)

/-- The session parameters, proposal and peer view after a negotiation with those in `view`. -/
def negotiated (s : SdpOaState P) (view : View) (answer : Negotiated P) : SdpOaState P :=
  { s.putView answer.self view with
    proposalView := some answer.proposalView
    peerView := some answer.peerView }

def handleAnswer (ops : SessionParameterOps P) (s : SdpOaState P) (parser : SdpParser)
    (updateRemoteVersion : Bool) : Option (SdpOaState P × OfferAnswerResult) :=
  match ops.create parser with
  | none => some (s, .failure)
  | some answer =>
    let s := if updateRemoteVersion then
        { s with
          lastOfferMade := s.lastOfferMade.map
            (ops.updateRemoteVersion · (ops.getSessionVersion answer)) }
      else s
    do
      let current ← s.viewAt s.currentCapabilities
      if ops.getMediaCount answer ≠ ops.getMediaCount current then return (s, .failure)
      else
        let processed := ops.processAnswer current answer
        return (s.negotiated s.currentCapabilities processed, processed.result)

/-- The media are compared unless neither side has any. -/
def comparesMedia (ops : SessionParameterOps P) (s : SdpOaState P) (offer : P) : Option Bool :=
  if ops.getMediaCount offer ≠ 0 then some true
  else if s.state = .offerReceived then some false
  else if s.state = .offerChangeReceived then do
    let current ← s.currentView
    return ops.getMediaCount current ≠ 0
  else some true

/-- An offer with the session version of the last one. -/
def handleSameVersion (ops : SessionParameterOps P) (s : SdpOaState P) (offer : P) :
    Option (SdpOaState P × OfferAnswerResult) := do
  let current ← s.currentView
  let provided :=
    { s with currentView := some (ops.setLastSdpProvidedWithNegotiatedSdp current true) }
  let s ← if ops.isLastSdpProvidedWithNegotiatedSdp current then some s
    else provided.increaseSessionVersion ops
  let current ← s.currentView
  return ({ s with proposalView := some current, peerView := some offer }, .notChanged)

/-- The session versions after a counter offer has been accepted. -/
def acceptOfferChange (ops : SessionParameterOps P) (s : SdpOaState P) : SdpOaState P :=
  { s with
    proposalView := s.proposalView.map fun proposal =>
      ops.increaseSessionVersion (ops.setLastSdpProvidedWithNegotiatedSdp proposal true)
    capabilities := ops.increaseSessionVersion s.capabilities
    lastOfferMade := s.lastOfferMade.map ops.increaseSessionVersion }

def handleOffer (ops : SessionParameterOps P) (s : SdpOaState P) (parser : SdpParser) :
    Option (SdpOaState P × OfferAnswerResult) :=
  match ops.create parser with
  | none => some (s, .failure)
  | some offer =>
    let offer := ops.updateRemoteVersion offer (ops.getSessionVersion offer)
    match s.viewAt s.currentCapabilities with
    | none => some (s, .failure)
    | some current =>
      if s.state = .offerReceived ∧ ops.getMediaCount current = 0 then
        let answer := ops.copyOffer current offer
        some (s.negotiated s.currentCapabilities
          { answer with
            proposalView := ops.setLastSdpProvidedWithNegotiatedSdp answer.proposalView true },
          answer.result)
      else do
        let withMedia ← s.comparesMedia ops offer
        if s.state = .offerChangeReceived ∧ s.sdpVersionCheck ∧ ops.isSameVersion current offer then
          s.handleSameVersion ops offer
        else
          let answer := ops.generateAnswer current offer withMedia
            (s.state = .idle || s.state = .established) (s.state ≠ .offerChangeReceived)
          let s := s.negotiated s.currentCapabilities answer
          return (if (answer.result = .success ∨ answer.result = .qosPreconditionPresent) ∧
              s.state = .offerChangeReceived then s.acceptOfferChange ops else s, answer.result)

/-- The last offer after an answer to a new one; `previous` is the one before it. -/
def settleLastOffer (ops : SessionParameterOps P) (s : SdpOaState P) (previous : Option P) :
    SdpOaState P :=
  match s.lastOfferMade, previous with
  | some last, some previous =>
    { s with
      lastOfferMade := some (ops.updateRemoteVersion previous (ops.getRemoteVersion last)) }
  | _, previous => { s with lastOfferMade := previous }

/-- What becomes of the preview mode once an answer has been handled. -/
def notePreview (s : SdpOaState P) (msg : SipMessage) (nResult : OfferAnswerResult) :
    SdpOaState P :=
  let reliable := msg.messageRpr || msg.statusCode.any isFinalSuccess
  if s.mode = .offerer then
    if s.previewModeSupported ∧ s.oldState = .offerSent ∧ msg.statusCode.isSome ∧ !reliable then
      { s with previewMode := true }
    else s
  else if s.previewMode ∧ !nResult.failed ∧ msg.method = .invite ∧ reliable then
    { s with previewMode := false }
  else s

/-- `HandleOfferAnswer` in STATE_ESTABLISHED. -/
def handleEstablished (ops : SessionParameterOps P) (s : SdpOaState P) (msg : SipMessage)
    (parser : SdpParser) : Option (SdpOaState P × OfferAnswerResult) :=
  let previous := s.lastOfferMade
  let offered := if s.mode = .offerer then
      { s with lastOfferMade := s.proposalView, proposalView := none } else s
  do
    let handled ← offered.handleAnswer ops parser (s.mode = .offerer || s.previewMode)
    if s.mode = .offerer ∧ handled.2.failed then
      return (handled.1.settleLastOffer ops previous, handled.2)
    else return (handled.1.notePreview msg handled.2, handled.2)

/-- What `HandleOfferAnswer` does with a body that parses. -/
def handleParsed (ops : SessionParameterOps P) (s : SdpOaState P) (msg : SipMessage)
    (parser : SdpParser) : Option (SdpOaState P × OfferAnswerResult) :=
  match s.state with
  | .established => s.handleEstablished ops msg parser
  | .offerReceived | .offerChangeReceived => s.handleOffer ops parser
  | _ => some (s, .notChanged)

/-- The body that `HandleOfferAnswer` looks at. -/
def bodyToHandle (s : SdpOaState P) (msg : SipMessage) : Option Chars :=
  if s.stateChanged then msg.sdpBodyPart else none

/-- `HandleOfferAnswer` with all that it does to the views. -/
def handleMessage (ops : SessionParameterOps P) (s : SdpOaState P) (msg : SipMessage) :
    Option (SdpOaState P × OfferAnswerResult) :=
  match s.bodyToHandle msg with
  | none => some (s, .notChanged)
  | some sdp =>
    match SdpParser.decode sdp with
    | none => some (s.rollbackForMalformedSdp, .failure)
    | some parser => s.handleParsed ops msg parser

/-- Where no view is missing, this is `handleOfferAnswer` with what is done to the views. -/
theorem handleOfferAnswer_of_handleMessage {ops : SessionParameterOps P} {s : SdpOaState P}
    {msg : SipMessage} {result : SdpOaState P × OfferAnswerResult}
    (hresult : s.handleMessage ops msg = some result) :
    s.handleOfferAnswer
      (fun s msg parser => (s.handleParsed ops msg parser).getD (s, .failure)) msg = result := by
  unfold handleMessage bodyToHandle at hresult
  unfold handleOfferAnswer
  cases hchanged : s.stateChanged with
  | false => simpa [hchanged] using hresult
  | true =>
    cases hbody : msg.sdpBodyPart with
    | none => simpa [hchanged, hbody] using hresult
    | some sdp =>
      simp only [hchanged, hbody, if_true] at hresult
      cases hdecode : SdpParser.decode sdp with
      | none => simpa [hdecode] using hresult
      | some parser =>
        simp only [hdecode] at hresult
        simp [hdecode, hresult]

def updateStateOnTransactionCompleted (s : SdpOaState P) (msg : SipMessage) : SdpOaState P :=
  if msg.method ≠ .invite then s
  else if msg.statusCode.any (200 ≤ ·) then
    { s with
      provisionalRespWithSdp := false
      previewMode := s.previewMode && msg.sdpBodyPart.isNone }
  else if msg.messageRpr then { s with previewMode := s.previewMode && msg.sdpBodyPart.isNone }
  else s

end SdpOaState

end ImsStack.OfferAnswer
