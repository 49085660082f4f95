import ImsStack.Library.TransitionSystem
import ImsStack.OfferAnswer.StateTables
import Mathlib.Logic.Function.Basic

/-!
Two endpoints that exchange offers and answers over a FIFO channel in each
direction.  Every message goes through `UpdateState` of its sender and, once
delivered, of its receiver.  Offers are numbered, and a message is marked with
the offer it makes, answers or refuses, so that runs can be told apart in which
the receiver takes a message for something else.
-/

namespace ImsStack.OfferAnswer

open Platform.AString TransitionSystem

inductive Side where
  | caller | callee
  deriving DecidableEq, Repr

def Side.other : Side → Side
  | .caller => .callee
  | .callee => .caller

@[simp] theorem Side.other_other (x : Side) : x.other.other = x := by cases x <;> rfl

theorem Side.other_ne (x : Side) : x.other ≠ x := by cases x <;> decide

theorem Side.eq_or (x y : Side) : y = x ∨ y = x.other := by cases x <;> cases y <;> decide

/-- What a message does for its sender: it makes an offer, or answers or refuses
the offer of the peer. -/
inductive Role where
  | none
  | offer (n : Nat)
  | answer (n : Nat)
  | refusal (n : Nat)
  deriving DecidableEq, Repr

def Role.isOffer : Role → Bool
  | .offer _ => true
  | _ => false

def Role.closesOffer : Role → Bool
  | .answer _ | .refusal _ => true
  | _ => false

structure Message where
  sip : SipMessage
  role : Role
  deriving DecidableEq, Repr

/-- A request that waits for its final response. -/
structure Request where
  method : SipMethod
  withSdp : Bool
  /-- The offer in it, if `UpdateState` has rejected it. -/
  rejected : Option Nat
  deriving DecidableEq, Repr

/-- An endpoint: its `SdpOaState`, the offer pending there and the requests it
has to respond to. -/
structure Party (P : Type) where
  oa : SdpOaState P
  offer : Option Nat := none
  requests : List Request := []

structure Dialog (P : Type) where
  party : Side → Party P
  /-- The messages on their way from an endpoint. -/
  wire : Side → List Message
  nextOffer : Nat

namespace Party

variable {P : Type}

/-- The role of a message that takes the sender's state from `before` to `after`. -/
def sentRole (before after : State) (pending : Option Nat) (nextOffer : Nat) (failure : Bool) :
    Role :=
  if before.settled ∧ after.offering then .offer nextOffer
  else if before.answering ∧ !after.answering then
    match pending with
    | some n => if failure then .refusal n else .answer n
    | none => .none
  else .none

def offerAfterSent (role : Role) (pending : Option Nat) : Option Nat :=
  match role with
  | .offer n => some n
  | .answer _ | .refusal _ => none
  | .none => pending

def offerAfterReceived (before after : State) (role : Role) (pending : Option Nat) : Option Nat :=
  if before.settled ∧ after.answering then
    match role with
    | .offer n => some n
    | _ => none
  else if before.offering ∧ !after.offering then none
  else pending

/-- `UpdateState(MESSAGE_SENT)`, with the role of the message. -/
def send (p : Party P) (msg : SipMessage) (isCallEstablished : Bool) (nextOffer : Nat) :
    Party P × Role :=
  let oa := (p.oa.updateState msg .sent isCallEstablished false).1
  let role := sentRole p.oa.state oa.state p.offer nextOffer msg.isFailure
  ({ p with oa := oa, offer := offerAfterSent role p.offer }, role)

/-- `UpdateState(MESSAGE_RECEIVED)`; a request has to be responded to. -/
def receive (p : Party P) (m : Message) (isCallEstablished : Bool) : Party P :=
  let (oa, accepted) := p.oa.updateState m.sip .received isCallEstablished false
  let rejected := match m.role with
    | .offer n => if accepted then none else some n
    | _ => none
  { oa := oa
    offer := offerAfterReceived p.oa.state oa.state m.role p.offer
    requests :=
      if m.sip.statusCode = none ∧ m.sip.method ≠ .ack then
        p.requests ++ [⟨m.sip.method, m.sip.sdpBodyPart.isSome, rejected⟩]
      else p.requests }

end Party

namespace Dialog

variable {P : Type}

/-- An endpoint after it has put a message on the wire. -/
def post (d : Dialog P) (x : Side) (p : Party P) (m : Message) : Dialog P where
  party := Function.update d.party x p
  wire := Function.update d.wire x (d.wire x ++ [m])
  nextOffer := d.nextOffer + 1

/-- A message from `x` has reached the other endpoint. -/
def arrive (d : Dialog P) (x : Side) (p : Party P) (rest : List Message) : Dialog P where
  party := Function.update d.party x.other p
  wire := Function.update d.wire x rest
  nextOffer := d.nextOffer

end Dialog

inductive DialogEvent where
  | sendRequest (x : Side) (msg : SipMessage)
  | sendResponse (x : Side) (msg : SipMessage)
  | deliver (x : Side)

/-- What a response to a request may be.  A body in a 2xx needs an offer in the
request, or an INVITE without SDP; a rejected offer is refused without SDP. -/
structure Responds (msg : SipMessage) (request : Request) : Prop where
  method : msg.method = request.method
  response : msg.statusCode.isSome
  challenge : msg.isChallenge = false
  success : msg.isSuccess → msg.sdpBodyPart.isSome → request.withSdp ∨ request.method = .invite
  rejected : request.rejected.isSome → msg.isFailure ∧ msg.sdpBodyPart = none

inductive DialogStep {P : Type} : Dialog P → DialogEvent → Dialog P → Prop where
  | sendRequest (d : Dialog P) (x : Side) (msg : SipMessage) (isCallEstablished : Bool) :
      msg.statusCode = none → msg.method ≠ .other →
      (msg.sdpBodyPart.isSome →
        ((d.party x).oa.updateState msg .sent isCallEstablished false).2 = true) →
      DialogStep d (.sendRequest x msg)
        (d.post x ((d.party x).send msg isCallEstablished d.nextOffer).1
          ⟨msg, ((d.party x).send msg isCallEstablished d.nextOffer).2⟩)
  | sendResponse (d : Dialog P) (x : Side) (msg : SipMessage) (isCallEstablished : Bool)
      (front back : List Request) (request : Request) :
      (d.party x).requests = front ++ request :: back → Responds msg request →
      DialogStep d (.sendResponse x msg)
        (d.post x
          { ((d.party x).send msg isCallEstablished d.nextOffer).1 with
            requests :=
              if msg.isSuccess || msg.isFailure then front ++ back else (d.party x).requests }
          ⟨msg, match request.rejected with
            | some n => .refusal n
            | none => ((d.party x).send msg isCallEstablished d.nextOffer).2⟩)
  | deliver (d : Dialog P) (x : Side) (m : Message) (rest : List Message)
      (isCallEstablished : Bool) :
      d.wire x = m :: rest →
      DialogStep d (.deliver x)
        (d.arrive x ((d.party x.other).receive m isCallEstablished) rest)

/-- Two new endpoints, neither in preview mode. -/
def dialog (P : Type) : System (Dialog P) DialogEvent where
  Init d := ∃ oa : Side → SdpOaState P,
    (∀ x, (oa x).state = .idle ∧ (oa x).previewMode = false) ∧
      d = { party := fun x => { oa := oa x }, wire := fun _ => [], nextOffer := 0 }
  Step := DialogStep

namespace Dialog

variable {P : Type}

/-- A message that reaches an endpoint is taken for what it was sent as.  Where
an offer of the endpoint is pending, a body or a failure response is the peer's
answer to an offer or the refusal of one, or the message is an INVITE or UPDATE;
between exchanges a body is taken for an offer if and only if it was sent as one. -/
def takesAsSent (oa : SdpOaState P) (m : Message) : Bool :=
  if oa.state.offering then
    !(m.sip.carriesSdp || m.sip.isFailure) || m.sip.isInviteOrUpdate || m.role.closesOffer
  else if oa.state.settled then oa.takesOffer m.sip == m.role.isOffer
  else true

def Understood (d : Dialog P) : DialogEvent → Prop
  | .deliver x => (d.wire x).head?.all (takesAsSent (d.party x.other).oa) = true
  | _ => True

/-- No message is on its way and no request waits for a response. -/
def Quiescent (d : Dialog P) : Prop :=
  ∀ x, d.wire x = [] ∧ (d.party x).requests = []

end Dialog

/-- The state of the peer that goes with a state. -/
def State.dual : State → State
  | .idle => .idle
  | .offerSent => .offerReceived
  | .offerReceived => .offerSent
  | .established => .established
  | .offerChangeSent => .offerChangeReceived
  | .offerChangeReceived => .offerChangeSent

end ImsStack.OfferAnswer
