import ImsStack.OfferAnswer.SdpOaState
import ImsStack.Sdp.SdpParser

/-!
`HandleOfferAnswer`: the SDP body of a message that has changed the state is parsed
and handled, and a malformed one takes the change of the state back.
-/

namespace ImsStack.OfferAnswer

open Platform.AString Sdp

/-- `SdpOfferAnswer::RESULT_*`. -/
inductive OfferAnswerResult where
  | notChanged | notDone | success | failure | qosPreconditionPresent | notFound
  deriving DecidableEq, Repr

namespace SdpOaState

variable {P : Type}

/-- OA_STATE_ROLLBACK_FOR_MALFORMED_SDP. -/
def rollbackForMalformedSdp (s : SdpOaState P) : SdpOaState P :=
  if s.state = .established ∧ (s.oldState = .offerSent ∨ s.oldState = .offerChangeSent) then
    { s with
      state := s.oldState
      oldState := if s.oldState = .offerSent then .idle else .established }
  else if (s.state = .offerReceived ∧ s.oldState = .idle) ∨
      (s.state = .offerChangeReceived ∧ s.oldState = .established) then
    { s with mode := .idle, stateChanged := false, state := s.oldState }
  else s

/-- `HandleOfferAnswer`; `handleSdp` is what it does with a body that parses. -/
def handleOfferAnswer
    (handleSdp : SdpOaState P → SipMessage → SdpParser → SdpOaState P × OfferAnswerResult)
    (s : SdpOaState P) (msg : SipMessage) : SdpOaState P × OfferAnswerResult :=
  if !s.stateChanged then (s, .notChanged)
  else
    match msg.sdpBodyPart with
    | none => (s, .notChanged)
    | some sdp =>
      match SdpParser.decode sdp with
      | none => (s.rollbackForMalformedSdp, .failure)
      | some parser => handleSdp s msg parser

end SdpOaState

end ImsStack.OfferAnswer
