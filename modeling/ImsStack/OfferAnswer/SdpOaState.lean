import ImsStack.Platform.AString

/-!
`SdpOaState`: the offer/answer state of a session and what a message sent or
received makes of it.  The session parameters it keeps are of any type here;
`UpdateState` only copies them.
-/

namespace ImsStack.OfferAnswer

open Platform.AString

/-- `SipMethod`, as far as it bears on the exchange. -/
inductive SipMethod where
  | invite | ack | prack | update | other
  deriving DecidableEq, Repr

/-- What `SdpOaState` reads of an `ISipMessage`: the status code of a response,
whether it is a reliable provisional response, and the SDP body. -/
structure SipMessage where
  method : SipMethod
  statusCode : Option Nat := none
  messageRpr : Bool := false
  sdpBodyPart : Option Chars := none
  deriving DecidableEq, Repr

/-- `SipStatusCode::IsProvisional`. -/
def isProvisional (code : Nat) : Bool := decide (100 < code ∧ code < 200)

/-- `SipStatusCode::IsFinalSuccess`. -/
def isFinalSuccess (code : Nat) : Bool := decide (200 ≤ code ∧ code < 300)

/-- `SdpOaState::STATE_*`; `STATE_INVALID` is `none` in the tables. -/
inductive State where
  | idle | offerSent | offerReceived | established | offerChangeSent | offerChangeReceived
  deriving DecidableEq, Repr

/-- `SdpOaState::TRIGGER_*`. -/
inductive Trigger where
  | invite | ack | prack | update | successResp | failureResp | rpr | provisionalResp | cancel | bye
  deriving DecidableEq, Repr

/-- `SdpOaState::MODE_*`. -/
inductive Mode where
  | idle | offerer | answerer
  deriving DecidableEq, Repr

/-- `MESSAGE_SENT` and `MESSAGE_RECEIVED`. -/
inductive MessageFlow where
  | sent | received
  deriving DecidableEq, Repr

/-- `SdpOaState::STATE_SENT`. -/
def stateSent : State → Trigger → Option State
  | .idle, .invite => some .offerSent
  | .idle, .ack => some .idle
  | .idle, .prack => some .offerSent
  | .idle, .update => some .offerSent
  | .idle, .successResp => some .offerSent
  | .idle, .failureResp => some .idle
  | .idle, .rpr => some .offerSent
  | .idle, .provisionalResp => some .offerSent
  | .idle, .cancel => some .idle
  | .idle, .bye => some .idle
  | .offerSent, .successResp => some .offerSent
  | .offerSent, .failureResp => some .offerSent
  | .offerSent, .cancel => some .offerSent
  | .offerSent, .bye => some .offerSent
  | .offerSent, _ => none
  | .offerReceived, .invite => none
  | .offerReceived, .ack => some .established
  | .offerReceived, .prack => some .established
  | .offerReceived, .update => none
  | .offerReceived, .successResp => some .established
  | .offerReceived, .failureResp => some .idle
  | .offerReceived, .rpr => some .established
  | .offerReceived, .provisionalResp => some .established
  | .offerReceived, .cancel => some .offerReceived
  | .offerReceived, .bye => some .offerReceived
  | .established, .invite => some .offerChangeSent
  | .established, .ack => some .established
  | .established, .prack => some .offerChangeSent
  | .established, .update => some .offerChangeSent
  | .established, .successResp => some .offerChangeSent
  | .established, .failureResp => some .established
  | .established, .rpr => some .offerChangeSent
  | .established, .provisionalResp => some .offerChangeSent
  | .established, .cancel => some .established
  | .established, .bye => some .established
  | .offerChangeSent, .successResp => some .offerChangeSent
  | .offerChangeSent, .rpr => some .offerChangeSent
  | .offerChangeSent, .cancel => some .offerChangeSent
  | .offerChangeSent, .bye => some .offerChangeSent
  | .offerChangeSent, _ => none
  | .offerChangeReceived, .invite => none
  | .offerChangeReceived, .ack => some .established
  | .offerChangeReceived, .prack => some .established
  | .offerChangeReceived, .update => none
  | .offerChangeReceived, .successResp => some .established
  | .offerChangeReceived, .failureResp => some .established
  | .offerChangeReceived, .rpr => some .established
  | .offerChangeReceived, .provisionalResp => some .established
  | .offerChangeReceived, .cancel => some .offerChangeReceived
  | .offerChangeReceived, .bye => some .offerChangeReceived

/-- `SdpOaState::STATE_RECEIVED`. -/
def stateReceived : State → Trigger → Option State
  | .idle, .invite => some .offerReceived
  | .idle, .ack => none
  | .idle, .prack => some .offerReceived
  | .idle, .update => some .offerReceived
  | .idle, .successResp => some .offerReceived
  | .idle, .failureResp => some .idle
  | .idle, .rpr => some .offerReceived
  | .idle, .provisionalResp => some .offerReceived
  | .idle, .cancel => none
  | .idle, .bye => none
  | .offerSent, .invite => none
  | .offerSent, .ack => some .established
  | .offerSent, .prack => some .established
  | .offerSent, .update => none
  | .offerSent, .successResp => some .established
  | .offerSent, .failureResp => some .idle
  | .offerSent, .rpr => some .established
  | .offerSent, .provisionalResp => some .established
  | .offerSent, .cancel => some .offerSent
  | .offerSent, .bye => some .offerSent
  | .offerReceived, .invite => none
  | .offerReceived, .ack => none
  | .offerReceived, .update => none
  | .offerReceived, _ => some .offerReceived
  | .established, .invite => some .offerChangeReceived
  | .established, .ack => some .established
  | .established, .prack => some .offerChangeReceived
  | .established, .update => some .offerChangeReceived
  | .established, .successResp => some .offerChangeReceived
  | .established, .failureResp => some .established
  | .established, .rpr => some .offerChangeReceived
  | .established, .provisionalResp => some .offerChangeReceived
  | .established, .cancel => some .established
  | .established, .bye => some .established
  | .offerChangeSent, .invite => none
  | .offerChangeSent, .ack => some .established
  | .offerChangeSent, .prack => some .established
  | .offerChangeSent, .update => none
  | .offerChangeSent, .successResp => some .established
  | .offerChangeSent, .failureResp => some .established
  | .offerChangeSent, .rpr => some .established
  | .offerChangeSent, .provisionalResp => some .established
  | .offerChangeSent, .cancel => some .offerChangeSent
  | .offerChangeSent, .bye => some .offerChangeSent
  | .offerChangeReceived, .invite => none
  | .offerChangeReceived, .ack => none
  | .offerChangeReceived, .update => none
  | .offerChangeReceived, _ => some .offerChangeReceived

structure SdpOaState (P : Type) where
  state : State := .idle
  oldState : State := .idle
  mode : Mode := .idle
  previewModeSupported : Bool := false
  previewMode : Bool := false
  stateChanged : Bool := false
  offerProgress : Bool := false
  provisionalRespWithSdp : Bool := false
  sdpVersionCheck : Bool := true
  alwaysIncreaseSdpVersion : Bool := false
  lastOfferMade : Option P := none
  currentView : Option P := none
  peerView : Option P := none
  proposalView : Option P := none
  refusedView : Option P := none
  capabilities : P
  deriving DecidableEq, Repr

namespace SdpOaState

variable {P : Type}

def setCapabilities (s : SdpOaState P) : SdpOaState P :=
  match s.proposalView with
  | none => s
  | some proposal => { s with capabilities := proposal }

/-- The trigger of a request, from its method. -/
def methodTrigger : SipMethod → Option Trigger
  | .invite => some .invite
  | .ack => some .ack
  | .prack => some .prack
  | .update => some .update
  | .other => none

/-- The trigger of a response; `none` when it is left out of the exchange. -/
def responseTrigger (s : SdpOaState P) (msg : SipMessage) (code : Nat) (allowOaForNonRpr : Bool) :
    SdpOaState P × Option Trigger :=
  if code = 100 then (s, none)
  else if isProvisional code then
    if s.state = .established ∧ s.provisionalRespWithSdp ∧ !msg.messageRpr ∧ !s.previewMode then
      (s, none)
    else (s, some (if msg.messageRpr then .rpr else .provisionalResp))
  else if isFinalSuccess code then
    if s.state = .established ∧ s.provisionalRespWithSdp ∧ msg.method = .invite then
      ({ s with provisionalRespWithSdp := false },
        if allowOaForNonRpr then some .successResp else none)
    else (s, some .successResp)
  else
    (if s.provisionalRespWithSdp ∧ msg.method = .invite then
      { s with provisionalRespWithSdp := false } else s, some .failureResp)

/-- The trigger of a message, up to the look into the tables. -/
def messageTrigger (s : SdpOaState P) (msg : SipMessage) (flow : MessageFlow)
    (isCallEstablished allowOaForNonRpr : Bool) : SdpOaState P × Option Trigger :=
  match methodTrigger msg.method with
  | none => (s, none)
  | some methodTrigger =>
    let (s, trigger) := match msg.statusCode with
      | none => (s, some methodTrigger)
      | some code => s.responseTrigger msg code allowOaForNonRpr
    match trigger with
    | none => (s, none)
    | some trigger =>
      if trigger = .provisionalResp ∧ !(allowOaForNonRpr || s.previewMode) then (s, none)
      else if msg.sdpBodyPart = none ∧ trigger ≠ .failureResp then (s, none)
      else if flow = .received ∧ trigger = .failureResp ∧ msg.method ≠ .invite ∧
          (msg.statusCode = some 401 ∨ msg.statusCode = some 407) ∧
          !(isCallEstablished && msg.method = .update) then (s, none)
      else (s, some trigger)

/-- The special cases after a change of state. -/
def noteStateChange (s : SdpOaState P) (trigger : Trigger) (needToChangeOldState : Bool)
    (oldState : State) : SdpOaState P :=
  { s with
    provisionalRespWithSdp :=
      s.provisionalRespWithSdp ||
        (s.stateChanged && decide (trigger = .rpr ∨ trigger = .provisionalResp))
    oldState := if needToChangeOldState then oldState else s.oldState }

def updateStateSent (s : SdpOaState P) (trigger : Trigger) : SdpOaState P × Bool :=
  let oldState := s.state
  match stateSent oldState trigger with
  | none => (s, false)
  | some updateState =>
    let changed := decide (updateState ≠ oldState)
    let s := { s with state := updateState, stateChanged := s.stateChanged || changed }
    let s := if updateState = .offerSent ∨ updateState = .offerChangeSent then
      { s with mode := .offerer } else s
    let s := if updateState = .offerSent ∨ oldState = .offerReceived then s.setCapabilities else s
    (s.noteStateChange trigger changed oldState, true)

def updateStateReceived (s : SdpOaState P) (msg : SipMessage) (trigger : Trigger) :
    SdpOaState P × Bool :=
  let oldState := s.state
  match stateReceived oldState trigger with
  | none => (s, false)
  | some updateState =>
    if msg.method = .update ∧ updateState = .offerChangeReceived ∧
        (trigger = .successResp ∨ s.previewMode) then (s, true)
    else if s.previewMode ∧ updateState = .offerChangeReceived ∧
        (trigger = .rpr ∨ trigger = .provisionalResp ∨ trigger = .successResp) then
      (({ s with stateChanged := true }).noteStateChange trigger false oldState, true)
    else
      let changed := decide (updateState ≠ oldState) && msg.sdpBodyPart.isSome
      let s := { s with state := updateState, stateChanged := s.stateChanged || changed }
      let s := if updateState = .offerReceived ∨ updateState = .offerChangeReceived then
        { s with mode := .answerer } else s
      (s.noteStateChange trigger changed oldState, true)

def updateState (s : SdpOaState P) (msg : SipMessage) (flow : MessageFlow)
    (isCallEstablished : Bool) (allowOaForNonRpr : Bool) : SdpOaState P × Bool :=
  let s := if flow = .sent then { s with offerProgress := false } else s
  let s := { s with stateChanged := false }
  match s.messageTrigger msg flow isCallEstablished allowOaForNonRpr with
  | (s, none) => (s, true)
  | (s, some trigger) =>
    match flow with
    | .sent => s.updateStateSent trigger
    | .received => s.updateStateReceived msg trigger

end SdpOaState

end ImsStack.OfferAnswer
