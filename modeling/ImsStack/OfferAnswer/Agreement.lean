import ImsStack.OfferAnswer.Dialog
import Mathlib.Data.List.Count

/-!
Two endpoints that understand each other's messages agree whenever nothing is on
its way.  The invariant counts the places where a pending offer can be: on its
way, held by the peer, rejected and not yet refused, or answered or refused with
that on its way.  Each pending offer is in exactly one of them.
-/

namespace ImsStack.OfferAnswer.Agreement

open TransitionSystem

variable {P : Type}

def offerSent (p : Party P) : Option Nat := if p.oa.state.offering then p.offer else none

def offerReceived (p : Party P) : Option Nat := if p.oa.state.answering then p.offer else none

section Counts

/-- Each count of offer `n` is zero or one where it is not a count of a list. -/
def sentCount (p : Party P) (n : Nat) : Nat := if offerSent p = some n then 1 else 0

def heldCount (p : Party P) (n : Nat) : Nat :=
  (if offerReceived p = some n then 1 else 0) + p.requests.countP (·.rejected = some n)

def makes (n : Nat) (m : Message) : Bool := m.role = .offer n

def closes (n : Nat) (m : Message) : Bool := m.role = .answer n ∨ m.role = .refusal n

/-- The places where offer `n` of an endpoint is. -/
def offerPlaces (d : Dialog P) (x : Side) (n : Nat) : Nat :=
  (d.wire x).countP (makes n) + heldCount (d.party x.other) n +
    (d.wire x.other).countP (closes n)

end Counts

/-- What the role of a message says about the message. -/
structure WellFormed (m : Message) : Prop where
  challenge : m.sip.isChallenge = false
  offer : ∀ n, m.role = .offer n → m.sip.carriesSdp
  answer : ∀ n, m.role = .answer n →
    m.sip.carriesSdp ∧ m.sip.isFailure = false ∧ m.sip.isInviteOrUpdate = false
  refusal : ∀ n, m.role = .refusal n → m.sip.isFailure

structure Agreed (d : Dialog P) : Prop where
  preview : ∀ x, (d.party x).oa.previewMode = false
  pending : ∀ x, (d.party x).oa.state.settled = false → (d.party x).offer.isSome
  places : ∀ x n, offerPlaces d x n = sentCount (d.party x) n
  fresh : ∀ x n, offerSent (d.party x) = some n → n < d.nextOffer
  wellFormed : ∀ x, ∀ m ∈ d.wire x, WellFormed m
  answered : ∀ x, ∀ m ∈ d.wire x, ∀ n, m.role = .answer n → (d.party x).oa.state.hasSession
  session : ∀ x, (d.party x).oa.state.hasSession →
    (d.party x.other).oa.state.hasSession ∨ ∃ m ∈ d.wire x, ∃ n, m.role = .answer n

section Frame

variable (d : Dialog P) (x : Side) (p : Party P) (m : Message) (rest : List Message)

@[simp] theorem post_party : (d.post x p m).party x = p := Function.update_self ..

@[simp] theorem post_party_other : (d.post x p m).party x.other = d.party x.other :=
  Function.update_of_ne x.other_ne ..

@[simp] theorem post_wire : (d.post x p m).wire x = d.wire x ++ [m] := Function.update_self ..

@[simp] theorem post_wire_other : (d.post x p m).wire x.other = d.wire x.other :=
  Function.update_of_ne x.other_ne ..

@[simp] theorem arrive_party : (d.arrive x p rest).party x = d.party x :=
  Function.update_of_ne x.other_ne.symm ..

@[simp] theorem arrive_party_other : (d.arrive x p rest).party x.other = p :=
  Function.update_self ..

@[simp] theorem arrive_wire : (d.arrive x p rest).wire x = rest := Function.update_self ..

@[simp] theorem arrive_wire_other : (d.arrive x p rest).wire x.other = d.wire x.other :=
  Function.update_of_ne x.other_ne ..

end Frame

section Conservation

variable {d : Dialog P} {x : Side} {p : Party P} {m : Message} {rest : List Message}

/-- Sending keeps the count if the message makes the offer it adds and closes the
offer it drops. -/
theorem places_post (h : ∀ x n, offerPlaces d x n = sentCount (d.party x) n)
    (hsent : ∀ n, sentCount p n = (if makes n m then 1 else 0) + sentCount (d.party x) n)
    (hheld : ∀ n, heldCount p n + (if closes n m then 1 else 0) = heldCount (d.party x) n) :
    ∀ y n, offerPlaces (d.post x p m) y n = sentCount ((d.post x p m).party y) n := by
  intro y n
  rcases x.eq_or y with rfl | rfl
  · have hy := h y n
    have hn := hsent n
    simp only [offerPlaces, post_wire, post_wire_other, post_party, post_party_other, List.countP_append,
      List.countP_cons, List.countP_nil] at hy ⊢
    omega
  · have hy := h x.other n
    have hn := hheld n
    simp only [offerPlaces, post_wire, post_wire_other, post_party, post_party_other, Side.other_other,
      List.countP_append, List.countP_cons, List.countP_nil] at hy ⊢
    omega

/-- Delivery keeps the count if the receiver takes up the offer the message makes
and drops the offer it closes. -/
theorem places_arrive (h : ∀ x n, offerPlaces d x n = sentCount (d.party x) n)
    (hwire : d.wire x = m :: rest)
    (hheld : ∀ n, heldCount p n =
      heldCount (d.party x.other) n + (if makes n m then 1 else 0))
    (hsent : ∀ n, sentCount p n + (if closes n m then 1 else 0) =
      sentCount (d.party x.other) n) :
    ∀ y n, offerPlaces (d.arrive x p rest) y n = sentCount ((d.arrive x p rest).party y) n := by
  intro y n
  rcases x.eq_or y with rfl | rfl
  · have hy := h y n
    have hn := hheld n
    simp only [offerPlaces, arrive_wire, arrive_wire_other, arrive_party, arrive_party_other, hwire,
      List.countP_cons] at hy ⊢
    omega
  · have hy := h x.other n
    have hn := hsent n
    simp only [offerPlaces, arrive_wire, arrive_wire_other, arrive_party, arrive_party_other,
      Side.other_other, hwire, List.countP_cons] at hy ⊢
    omega

end Conservation

section Send

variable {p : Party P} {msg : SipMessage} {e : Bool} {k : Nat}

/-- What a message sent does for its sender. -/
inductive Sends (p : Party P) (msg : SipMessage) (k : Nat) : Party P × Role → Prop where
  | nothing {oa : SdpOaState P} : oa.state = p.oa.state →
      Sends p msg k ({ p with oa := oa }, .none)
  | offer {oa : SdpOaState P} : p.oa.state.settled → oa.state = p.oa.state.offerMade →
      msg.carriesSdp → Sends p msg k ({ p with oa := oa, offer := some k }, .offer k)
  | answer {oa : SdpOaState P} {n : Nat} : p.oa.state.answering → p.offer = some n →
      oa.state = .established → msg.carriesSdp → msg.isFailure = false →
      msg.isInviteOrUpdate = false → Sends p msg k ({ p with oa := oa, offer := none }, .answer n)
  | refusal {oa : SdpOaState P} {n : Nat} : p.oa.state.answering → p.offer = some n →
      oa.state = p.oa.state.offerRefused → msg.isFailure →
      Sends p msg k ({ p with oa := oa, offer := none }, .refusal n)

theorem send_spec (hpreview : p.oa.previewMode = false)
    (hpending : p.oa.state.settled = false → p.offer.isSome) (msg : SipMessage) (e : Bool)
    (k : Nat) :
    Sends p msg k (p.send msg e k) ∧ (p.send msg e k).1.oa.previewMode = false := by
  have hpreview' : (p.send msg e k).1.oa.previewMode = false := by
    obtain ⟨-, -, h, -⟩ := SdpOaState.updateState_sent msg e hpreview
    exact h
  refine ⟨?_, hpreview'⟩
  have hsettled := SdpOaState.sent_settled msg e hpreview
  have hoffering := SdpOaState.sent_offering msg e hpreview
  have hanswering := SdpOaState.sent_answering msg e hpreview
  unfold Party.send
  generalize (p.oa.updateState msg .sent e false).1 = oa at *
  obtain ⟨poa, offer, requests⟩ := p
  simp only at *
  cases hstate : poa.state
  case idle | established =>
    rcases hsettled (by rw [hstate]; rfl) with hsame | ⟨hmade, hsdp, -⟩
    · have hrole : Party.sentRole poa.state oa.state offer k msg.isFailure = .none := by
        simp [Party.sentRole, hsame, hstate, State.offering, State.answering, State.settled]
      simp only [← hstate, hrole]
      exact .nothing hsame
    · have hrole : Party.sentRole poa.state oa.state offer k msg.isFailure = .offer k := by
        simp [Party.sentRole, hmade, hstate, State.offering, State.settled, State.offerMade]
      simp only [← hstate, hrole]
      exact .offer (by simp only [hstate]; rfl) hmade hsdp
  case offerSent | offerChangeSent =>
    have hsame := hoffering (by rw [hstate]; rfl)
    have hrole : Party.sentRole poa.state oa.state offer k msg.isFailure = .none := by
      simp [Party.sentRole, hsame, hstate, State.answering, State.settled]
    simp only [← hstate, hrole]
    exact .nothing hsame
  case offerReceived | offerChangeReceived =>
    obtain ⟨n, rfl⟩ := Option.isSome_iff_exists.mp (hpending (by rw [hstate]; rfl))
    have hnext := hanswering (by rw [hstate]; rfl)
    split at hnext
    · rename_i hfailure
      have hrole : Party.sentRole poa.state oa.state (some n) k msg.isFailure = .refusal n := by
        simp [Party.sentRole, hnext, hstate, State.answering, State.settled, State.offerRefused,
          hfailure]
      simp only [← hstate, hrole]
      exact .refusal (by simp only [hstate]; rfl) rfl hnext hfailure
    · rename_i hfailure
      split at hnext
      · rename_i hsdp
        have hrole : Party.sentRole poa.state oa.state (some n) k msg.isFailure = .answer n := by
          simp [Party.sentRole, hnext, hstate, State.answering, State.settled, hfailure]
        simp only [← hstate, hrole]
        exact .answer (by simp only [hstate]; rfl) rfl hnext hsdp.1 (by simpa using hfailure) hsdp.2
      · have hrole : Party.sentRole poa.state oa.state (some n) k msg.isFailure = .none := by
          simp [Party.sentRole, hnext, hstate, State.answering, State.settled]
        simp only [← hstate, hrole]
        exact .nothing hnext

end Send

section Receive

variable {p : Party P} {m : Message} {e : Bool}

/-- What a message received does for its receiver. -/
inductive Receives (p : Party P) (m : Message) : Party P → Prop where
  | nothing {oa : SdpOaState P} {added : List Request} : m.role = .none →
      oa.state = p.oa.state → (∀ r ∈ added, r.rejected = none) →
      Receives p m { p with oa := oa, requests := p.requests ++ added }
  | offer {oa : SdpOaState P} {n : Nat} {added : List Request} : m.role = .offer n →
      p.oa.state.settled → oa.state = p.oa.state.offerTaken → (∀ r ∈ added, r.rejected = none) →
      Receives p m { oa := oa, offer := some n, requests := p.requests ++ added }
  | rejected {oa : SdpOaState P} {n : Nat} {request : Request} : m.role = .offer n →
      p.oa.state.offering → oa.state = p.oa.state → request.rejected = some n →
      Receives p m { p with oa := oa, requests := p.requests ++ [request] }
  | answer {oa : SdpOaState P} {n : Nat} {added : List Request} : m.role = .answer n →
      p.oa.state.offering → p.offer = some n → oa.state = .established →
      (∀ r ∈ added, r.rejected = none) →
      Receives p m { oa := oa, offer := none, requests := p.requests ++ added }
  | refusal {oa : SdpOaState P} {n : Nat} {added : List Request} : m.role = .refusal n →
      p.oa.state.offering → p.offer = some n → oa.state = p.oa.state.offerRefused →
      (∀ r ∈ added, r.rejected = none) →
      Receives p m { oa := oa, offer := none, requests := p.requests ++ added }

theorem exists_added (c : Prop) [Decidable c] (requests : List Request) (r : Request)
    (hr : r.rejected = none) : ∃ added, (if c then requests ++ [r] else requests) = requests ++ added ∧
      ∀ r ∈ added, r.rejected = none := by
  by_cases h : c
  · refine ⟨[r], if_pos h, ?_⟩
    intro r' hr'
    rw [List.mem_singleton.mp hr', hr]
  · exact ⟨[], by rw [if_neg h, List.append_nil], nofun⟩

theorem receive_spec (hpreview : p.oa.previewMode = false) (hm : WellFormed m)
    (hoffer : ∀ n, m.role = .offer n → p.oa.state.answering = false)
    (hcloses : ∀ n, m.role = .answer n ∨ m.role = .refusal n →
      p.oa.state.offering ∧ p.offer = some n)
    (hpendingOnly : p.oa.state.offering → m.sip.carriesSdp ∨ m.sip.isFailure →
      m.sip.isInviteOrUpdate ∨ m.role.closesOffer)
    (hsettledOnly : p.oa.state.settled → p.oa.takesOffer m.sip = m.role.isOffer) :
    Receives p m (p.receive m e) ∧ (p.receive m e).oa.previewMode = false := by
  have hpreview' : (p.receive m e).oa.previewMode = false := by
    obtain ⟨-, -, h, -, -⟩ :=
      SdpOaState.updateState_received m.sip e hpreview
    exact h
  refine ⟨?_, hpreview'⟩
  have hsettled := SdpOaState.received_settled m.sip e hpreview
  have hoffering := SdpOaState.received_offering m.sip e hpreview
  have hanswering := SdpOaState.received_answering m.sip e hpreview
  simp only [Party.receive]
  generalize p.oa.updateState m.sip .received e false = result at *
  obtain ⟨oa, accepted⟩ := result
  obtain ⟨poa, pending, requests⟩ := p
  simp only at *
  cases hrole : m.role with
  | none =>
      have hnotCloses : ¬m.role.closesOffer = true := by simp [hrole, Role.closesOffer]
      have hsame : oa.state = poa.state := by
        cases hstate : poa.state
        case idle | established =>
          have htakes : poa.takesOffer m.sip = false := by
            rw [hsettledOnly (by rw [hstate]; rfl), hrole]
            rfl
          obtain ⟨h, -⟩ := hsettled (by rw [hstate]; rfl)
          rw [htakes] at h
          exact h.trans (by rw [hstate]; rfl)
        case offerSent | offerChangeSent =>
          have honly := hpendingOnly (by rw [hstate]; rfl)
          obtain ⟨h, -⟩ := hoffering (by rw [hstate]; rfl) hm.challenge
          have hfailure : m.sip.isFailure = false := by
            by_contra hfailure
            have hfailure' : m.sip.isFailure := by simpa using hfailure
            have hinvite := (honly (.inr hfailure')).resolve_right hnotCloses
            simp only [SipMessage.isInviteOrUpdate, SipMessage.isFailure] at hinvite hfailure'
            cases hcode : m.sip.statusCode <;> simp_all
          rw [hfailure, if_neg Bool.false_ne_true] at h
          rw [if_neg, hstate] at h
          · exact h
          · rintro ⟨hsdp, hinvite⟩
            have := (honly (.inl hsdp)).resolve_right hnotCloses
            exact absurd (hinvite.symm.trans this) Bool.false_ne_true
        case offerReceived | offerChangeReceived =>
          exact (hanswering (by rw [hstate]; rfl)).trans hstate
      have hoffer : Party.offerAfterReceived poa.state oa.state .none pending = pending := by
        rw [hsame]
        cases poa.state <;> rfl
      obtain ⟨added, hadded, hnone⟩ := exists_added
        (m.sip.statusCode = none ∧ m.sip.method ≠ .ack) requests
        ⟨m.sip.method, m.sip.sdpBodyPart.isSome, none⟩ rfl
      rw [hoffer, hadded]
      exact .nothing hrole hsame hnone
  | offer n =>
      have hanswering := hoffer n hrole
      cases hstate : poa.state
      case idle | established =>
        have htakes : poa.takesOffer m.sip := by
          rw [hsettledOnly (by rw [hstate]; rfl), hrole]
          rfl
        obtain ⟨h, haccepted⟩ := hsettled (by rw [hstate]; rfl)
        rw [htakes, if_pos rfl] at h
        have haccepted' : accepted = true := haccepted htakes
        have hoffer : Party.offerAfterReceived poa.state oa.state (.offer n) pending = some n := by
          rw [h, hstate]
          rfl
        obtain ⟨added, hadded, hnone⟩ := exists_added
          (m.sip.statusCode = none ∧ m.sip.method ≠ .ack) requests
          ⟨m.sip.method, m.sip.sdpBodyPart.isSome, none⟩ rfl
        rw [haccepted', ← hstate, hoffer]
        simp only [↓reduceIte]
        rw [hadded]
        exact .offer hrole (by simp only [hstate]; rfl) h hnone
      case offerSent | offerChangeSent =>
        have hsdp := hm.offer n hrole
        have hinvite : m.sip.isInviteOrUpdate :=
          (hpendingOnly (by rw [hstate]; rfl) (.inl hsdp)).resolve_right
            (by simp [hrole, Role.closesOffer])
        obtain ⟨h, hrejected⟩ := hoffering (by rw [hstate]; rfl) hm.challenge
        have hfailure : m.sip.isFailure = false := by
          simp only [SipMessage.isInviteOrUpdate] at hinvite
          cases hcode : m.sip.statusCode <;> simp_all [SipMessage.isFailure]
        rw [hfailure, hinvite, if_neg Bool.false_ne_true, if_neg (by simp)] at h
        have hrejected' : accepted = false := hrejected hsdp hinvite
        have hoffer : Party.offerAfterReceived poa.state oa.state (.offer n) pending = pending := by
          rw [h, hstate]
          rfl
        have hrequest : m.sip.statusCode = none ∧ m.sip.method ≠ .ack := by
          simp only [SipMessage.isInviteOrUpdate, Bool.and_eq_true, Bool.or_eq_true, beq_iff_eq,
            Option.isNone_iff_eq_none] at hinvite
          refine ⟨hinvite.1, ?_⟩
          rcases hinvite.2 with hmethod | hmethod <;> rw [hmethod] <;> decide
        rw [hrejected', if_pos hrequest, ← hstate, hoffer]
        exact .rejected hrole (by simp only [hstate]; rfl) h rfl
      case offerReceived | offerChangeReceived =>
        rw [hstate] at hanswering
        exact absurd hanswering (by decide)
  | answer n =>
      obtain ⟨hstate, hpending⟩ := hcloses n (.inl hrole)
      obtain ⟨hsdp, hfailure, hinvite⟩ := hm.answer n hrole
      obtain ⟨h, -⟩ := hoffering hstate hm.challenge
      rw [hfailure, if_neg Bool.false_ne_true, if_pos ⟨hsdp, hinvite⟩] at h
      have hoffer : Party.offerAfterReceived poa.state oa.state (.answer n) pending = none := by
        rw [h]
        generalize poa.state = state at hstate
        cases state <;> first | rfl | exact absurd hstate (by decide)
      obtain ⟨added, hadded, hnone⟩ := exists_added
        (m.sip.statusCode = none ∧ m.sip.method ≠ .ack) requests
        ⟨m.sip.method, m.sip.sdpBodyPart.isSome, none⟩ rfl
      rw [hoffer, hadded]
      exact .answer hrole hstate hpending h hnone
  | refusal n =>
      obtain ⟨hstate, hpending⟩ := hcloses n (.inr hrole)
      obtain ⟨h, -⟩ := hoffering hstate hm.challenge
      rw [hm.refusal n hrole, if_pos rfl] at h
      have hoffer : Party.offerAfterReceived poa.state oa.state (.refusal n) pending = none := by
        rw [h]
        generalize poa.state = state at hstate
        cases state <;> first | rfl | exact absurd hstate (by decide)
      obtain ⟨added, hadded, hnone⟩ := exists_added
        (m.sip.statusCode = none ∧ m.sip.method ≠ .ack) requests
        ⟨m.sip.method, m.sip.sdpBodyPart.isSome, none⟩ rfl
      rw [hoffer, hadded]
      exact .refusal hrole hstate hpending h hnone

end Receive

section Steps

variable {d : Dialog P} {x : Side} {p : Party P} {m : Message} {rest : List Message}

theorem Agreed.post (h : Agreed d) (hpreview : p.oa.previewMode = false)
    (hpending : p.oa.state.settled = false → p.offer.isSome)
    (hsent : ∀ n, sentCount p n = (if makes n m then 1 else 0) + sentCount (d.party x) n)
    (hheld : ∀ n, heldCount p n + (if closes n m then 1 else 0) = heldCount (d.party x) n)
    (hfresh : ∀ n, m.role = .offer n → n = d.nextOffer) (hm : WellFormed m)
    (hanswer : ∀ n, m.role = .answer n → p.oa.state.hasSession)
    (hsession : p.oa.state.hasSession →
      (d.party x).oa.state.hasSession ∨ ∃ n, m.role = .answer n)
    (hkeeps : (d.party x).oa.state.hasSession → p.oa.state.hasSession) :
    Agreed (d.post x p m) := by
  constructor
  · intro y
    rcases x.eq_or y with rfl | rfl
    · rwa [post_party]
    · rw [post_party_other]
      exact h.preview _
  · intro y
    rcases x.eq_or y with rfl | rfl
    · rwa [post_party]
    · rw [post_party_other]
      exact h.pending _
  · exact places_post h.places hsent hheld
  · intro y n hn
    change n < d.nextOffer + 1
    rcases x.eq_or y with rfl | rfl
    · rw [post_party] at hn
      have hcount := hsent n
      rw [sentCount, if_pos hn] at hcount
      by_cases hmakes : makes n m
      · have hrole : m.role = .offer n := by simpa [makes] using hmakes
        rw [hfresh n hrole]
        exact Nat.lt_succ_self _
      · rw [if_neg hmakes] at hcount
        have hbefore : offerSent (d.party y) = some n := by
          by_contra hne
          rw [sentCount, if_neg hne] at hcount
          omega
        exact Nat.lt_succ_of_lt (h.fresh y n hbefore)
    · rw [post_party_other] at hn
      exact Nat.lt_succ_of_lt (h.fresh _ n hn)
  · intro y m' hm'
    rcases x.eq_or y with rfl | rfl
    · rw [post_wire] at hm'
      rcases List.mem_append.mp hm' with hm' | hm'
      · exact h.wellFormed _ m' hm'
      · rwa [List.mem_singleton.mp hm']
    · rw [post_wire_other] at hm'
      exact h.wellFormed _ m' hm'
  · intro y m' hm' n hn
    rcases x.eq_or y with rfl | rfl
    · rw [post_wire] at hm'
      rw [post_party]
      rcases List.mem_append.mp hm' with hm' | hm'
      · exact hkeeps (h.answered _ m' hm' n hn)
      · rw [List.mem_singleton.mp hm'] at hn
        exact hanswer n hn
    · rw [post_wire_other] at hm'
      rw [post_party_other]
      exact h.answered _ m' hm' n hn
  · intro y hy
    rcases x.eq_or y with rfl | rfl
    · rw [post_party] at hy
      rw [post_party_other, post_wire]
      rcases hsession hy with hbefore | hnow
      · rcases h.session _ hbefore with hother | ⟨m', hm', hn⟩
        · exact .inl hother
        · exact .inr ⟨m', List.mem_append_left _ hm', hn⟩
      · exact .inr ⟨m, List.mem_append_right _ (List.mem_singleton_self m), hnow⟩
    · rw [post_party_other] at hy
      rw [Side.other_other, post_party, post_wire_other]
      rcases h.session _ hy with hother | hwire
      · rw [Side.other_other] at hother
        exact .inl (hkeeps hother)
      · exact .inr hwire

theorem Agreed.arrive (h : Agreed d) (hwire : d.wire x = m :: rest)
    (hpreview : p.oa.previewMode = false)
    (hpending : p.oa.state.settled = false → p.offer.isSome)
    (hheld : ∀ n, heldCount p n =
      heldCount (d.party x.other) n + (if makes n m then 1 else 0))
    (hsent : ∀ n, sentCount p n + (if closes n m then 1 else 0) = sentCount (d.party x.other) n)
    (hsession : p.oa.state.hasSession →
      (d.party x.other).oa.state.hasSession ∨ ∃ n, m.role = .answer n)
    (hkeeps : (d.party x.other).oa.state.hasSession ∨ (∃ n, m.role = .answer n) →
      p.oa.state.hasSession) :
    Agreed (d.arrive x p rest) := by
  have hmem : m ∈ d.wire x := by
    rw [hwire]
    exact List.mem_cons_self
  have hrest : ∀ m' ∈ rest, m' ∈ d.wire x := by
    intro m' hm'
    rw [hwire]
    exact List.mem_cons_of_mem _ hm'
  constructor
  · intro y
    rcases x.eq_or y with rfl | rfl
    · rw [arrive_party]
      exact h.preview _
    · rwa [arrive_party_other]
  · intro y
    rcases x.eq_or y with rfl | rfl
    · rw [arrive_party]
      exact h.pending _
    · rwa [arrive_party_other]
  · exact places_arrive h.places hwire hheld hsent
  · intro y n hn
    change n < d.nextOffer
    rcases x.eq_or y with rfl | rfl
    · rw [arrive_party] at hn
      exact h.fresh _ n hn
    · rw [arrive_party_other] at hn
      have hcount := hsent n
      rw [sentCount, if_pos hn] at hcount
      refine h.fresh x.other n ?_
      by_contra hne
      rw [sentCount, if_neg hne] at hcount
      omega
  · intro y m' hm'
    rcases x.eq_or y with rfl | rfl
    · rw [arrive_wire] at hm'
      exact h.wellFormed _ m' (hrest m' hm')
    · rw [arrive_wire_other] at hm'
      exact h.wellFormed _ m' hm'
  · intro y m' hm' n hn
    rcases x.eq_or y with rfl | rfl
    · rw [arrive_wire] at hm'
      rw [arrive_party]
      exact h.answered _ m' (hrest m' hm') n hn
    · rw [arrive_wire_other] at hm'
      rw [arrive_party_other]
      exact hkeeps (.inl (h.answered _ m' hm' n hn))
  · intro y hy
    rcases x.eq_or y with rfl | rfl
    · rw [arrive_party] at hy
      rw [arrive_party_other, arrive_wire]
      rcases h.session _ hy with hother | ⟨m', hm', hn⟩
      · exact .inl (hkeeps (.inl hother))
      · rw [hwire] at hm'
        rcases List.mem_cons.mp hm' with rfl | hm'
        · exact .inl (hkeeps (.inr hn))
        · exact .inr ⟨m', hm', hn⟩
    · rw [arrive_party_other] at hy
      rw [Side.other_other, arrive_party, arrive_wire_other]
      rcases hsession hy with hbefore | ⟨n, hn⟩
      · have hother := h.session _ hbefore
        rwa [Side.other_other] at hother
      · exact .inl (h.answered _ m hmem n hn)

end Steps

section States

variable {s : State}

theorem settled_spec (h : s.settled) : s.offering = false ∧ s.answering = false := by
  cases s <;> first | exact ⟨rfl, rfl⟩ | exact absurd h (by decide)

theorem offering_spec (h : s.offering) : s.settled = false ∧ s.answering = false := by
  cases s <;> first | exact ⟨rfl, rfl⟩ | exact absurd h (by decide)

theorem answering_spec (h : s.answering) : s.settled = false ∧ s.offering = false := by
  cases s <;> first | exact ⟨rfl, rfl⟩ | exact absurd h (by decide)

theorem offerMade_spec (h : s.settled) :
    s.offerMade.offering ∧ s.offerMade.hasSession = s.hasSession := by
  cases s <;> first | exact ⟨rfl, rfl⟩ | exact absurd h (by decide)

theorem offerTaken_spec (h : s.settled) :
    s.offerTaken.answering ∧ s.offerTaken.hasSession = s.hasSession := by
  cases s <;> first | exact ⟨rfl, rfl⟩ | exact absurd h (by decide)

theorem offerRefused_spec (s : State) :
    s.offerRefused.settled ∧ s.offerRefused.hasSession = s.hasSession := by
  cases s <;> exact ⟨rfl, rfl⟩

end States

theorem takesAsSent_spec {oa : SdpOaState P} {m : Message} (h : Dialog.takesAsSent oa m) :
    (oa.state.offering → m.sip.carriesSdp ∨ m.sip.isFailure →
      m.sip.isInviteOrUpdate ∨ m.role.closesOffer) ∧
      (oa.state.settled → oa.takesOffer m.sip = m.role.isOffer) := by
  unfold Dialog.takesAsSent at h
  constructor
  · intro hoffering hbears
    rw [if_pos hoffering] at h
    simp only [Bool.or_eq_true, Bool.not_eq_true', Bool.or_eq_false_iff] at h
    rcases h with (⟨hsdp, hfailure⟩ | hinvite) | hcloses
    · rcases hbears with hbears | hbears
      · exact absurd (hsdp.symm.trans hbears) (by decide)
      · exact absurd (hfailure.symm.trans hbears) (by decide)
    · exact .inl hinvite
    · exact .inr hcloses
  · intro hsettled
    rw [(settled_spec hsettled).1, if_neg Bool.false_ne_true, if_pos hsettled] at h
    exact eq_of_beq h

section Run

variable {d : Dialog P} {x : Side}

theorem counts_eq (p : Party P) (n : Nat) :
    (p.oa.state.offering → sentCount p n = if p.offer = some n then 1 else 0) ∧
      (p.oa.state.offering = false → sentCount p n = 0) ∧
      (p.oa.state.answering → heldCount p n =
        (if p.offer = some n then 1 else 0) + p.requests.countP (·.rejected = some n)) ∧
      (p.oa.state.answering = false → heldCount p n = p.requests.countP (·.rejected = some n)) := by
  refine ⟨?_, ?_, ?_, ?_⟩ <;> intro h <;> simp [sentCount, heldCount, offerSent, offerReceived, h]

theorem Agreed.send (h : Agreed d) {msg : SipMessage} {result : Party P × Role}
    (hsends : Sends (d.party x) msg d.nextOffer result)
    (hpreview : result.1.oa.previewMode = false) (hchallenge : msg.isChallenge = false)
    (requests : List Request) (hrequests : ∀ n, requests.countP (·.rejected = some n) =
      (d.party x).requests.countP (·.rejected = some n)) :
    Agreed (d.post x { result.1 with requests := requests } ⟨msg, result.2⟩) := by
  have hpending := h.pending x
  cases hsends with
  | @nothing oa hstate =>
      refine h.post hpreview ?_ ?_ ?_ nofun ⟨hchallenge, nofun, nofun, nofun⟩ nofun ?_ ?_
      · simpa only [hstate] using hpending
      · intro n
        simp [sentCount, offerSent, hstate, makes]
      · intro n
        simp [heldCount, offerReceived, hstate, hrequests, closes]
      · simp only [hstate]
        exact .inl
      · simp only [hstate]
        exact id
  | @offer oa hsettled hstate hsdp =>
      obtain ⟨hoffering, hsession⟩ := offerMade_spec hsettled
      obtain ⟨hnotOffering, hnotAnswering⟩ := settled_spec hsettled
      rw [← hstate] at hoffering hsession
      obtain ⟨-, hnotAnswering'⟩ := offering_spec hoffering
      refine h.post hpreview ?_ ?_ ?_ ?_ ⟨hchallenge, fun _ _ => hsdp, nofun, nofun⟩ nofun ?_ ?_
      · exact fun _ => rfl
      · intro n
        rw [((counts_eq _ n).2.1 hnotOffering), (counts_eq _ n).1 hoffering]
        simp [makes]
      · intro n
        rw [(counts_eq _ n).2.2.2 hnotAnswering, (counts_eq _ n).2.2.2 hnotAnswering']
        simp [closes, hrequests]
      · intro n hn
        exact (Role.offer.inj hn).symm
      · simp only [hsession]
        exact .inl
      · simp only [hsession]
        exact id
  | @answer oa n hanswering hoffer hstate hsdp hfailure hinvite =>
      obtain ⟨-, hnotOffering⟩ := answering_spec hanswering
      have hnotOffering' : oa.state.offering = false := by
        rw [hstate]
        rfl
      have hnotAnswering' : oa.state.answering = false := by
        rw [hstate]
        rfl
      have hsession : oa.state.hasSession := by
        rw [hstate]
        rfl
      refine h.post hpreview ?_ ?_ ?_ nofun
        ⟨hchallenge, nofun, fun _ _ => ⟨hsdp, hfailure, hinvite⟩, nofun⟩ ?_ ?_ ?_
      · simp only [hstate]
        exact nofun
      · intro k
        rw [(counts_eq _ k).2.1 hnotOffering, (counts_eq _ k).2.1 hnotOffering']
        simp [makes]
      · intro k
        rw [(counts_eq _ k).2.2.1 hanswering, (counts_eq _ k).2.2.2 hnotAnswering', hoffer]
        simp [closes, hrequests]
        omega
      · exact fun _ _ => hsession
      · exact fun _ => .inr ⟨n, rfl⟩
      · exact fun _ => hsession
  | @refusal oa n hanswering hoffer hstate hfailure =>
      obtain ⟨-, hnotOffering⟩ := answering_spec hanswering
      obtain ⟨hsettled', hsession⟩ := offerRefused_spec (d.party x).oa.state
      rw [← hstate] at hsettled' hsession
      obtain ⟨hnotOffering', hnotAnswering'⟩ := settled_spec hsettled'
      refine h.post hpreview ?_ ?_ ?_ nofun
        ⟨hchallenge, nofun, nofun, fun _ _ => hfailure⟩ nofun ?_ ?_
      · intro hnot
        exact absurd (hsettled'.symm.trans hnot) (by decide)
      · intro k
        rw [(counts_eq _ k).2.1 hnotOffering, (counts_eq _ k).2.1 hnotOffering']
        simp [makes]
      · intro k
        rw [(counts_eq _ k).2.2.1 hanswering, (counts_eq _ k).2.2.2 hnotAnswering', hoffer]
        simp [closes, hrequests]
        omega
      · simp only [hsession]
        exact .inl
      · simp only [hsession]
        exact id

theorem Agreed.refuse (h : Agreed d) {msg : SipMessage} {result : Party P × Role}
    (hsends : Sends (d.party x) msg d.nextOffer result)
    (hpreview : result.1.oa.previewMode = false) (hchallenge : msg.isChallenge = false)
    (hfailure : msg.isFailure) (hbody : msg.sdpBodyPart = none) {front back : List Request}
    {request : Request} {n : Nat} (hrequests : (d.party x).requests = front ++ request :: back)
    (hrejected : request.rejected = some n) :
    Agreed (d.post x { result.1 with requests := front ++ back } ⟨msg, .refusal n⟩) := by
  have hcount : ∀ k, (d.party x).requests.countP (·.rejected = some k) =
      (front ++ back).countP (·.rejected = some k) + if n = k then 1 else 0 := by
    intro k
    rw [hrequests]
    simp only [List.countP_append, List.countP_cons, hrejected, Option.some.injEq, decide_eq_true_eq]
    omega
  -- A second offer of the peer cannot be pending here.
  have hone : ∀ k, (d.party x).oa.state.answering → (d.party x).offer ≠ some k := by
    intro k hanswering hoffer
    have hheld := (counts_eq (d.party x) k).2.2.1 hanswering
    have hheldn := (counts_eq (d.party x) n).2.2.1 hanswering
    rw [hcount] at hheld hheldn
    rw [hoffer, if_pos rfl] at hheld
    rw [if_pos rfl] at hheldn
    have hk := h.places x.other k
    have hn := h.places x.other n
    unfold offerPlaces at hk hn
    rw [Side.other_other] at hk hn
    have hsentk : offerSent (d.party x.other) = some k := by
      by_contra hne
      rw [sentCount, if_neg hne] at hk
      omega
    have hsentn : offerSent (d.party x.other) = some n := by
      by_contra hne
      rw [sentCount, if_neg hne] at hn
      omega
    obtain rfl : k = n := Option.some.inj (hsentk.symm.trans hsentn)
    rw [sentCount, if_pos hsentk] at hk
    rw [if_pos rfl] at hheld
    omega
  cases hsends with
  | @nothing oa hstate =>
      refine h.post hpreview ?_ ?_ ?_ nofun
        ⟨hchallenge, nofun, nofun, fun _ _ => hfailure⟩ nofun ?_ ?_
      · simpa only [hstate] using h.pending x
      · intro k
        simp [sentCount, offerSent, hstate, makes]
      · intro k
        have hreceived : offerReceived { d.party x with oa := oa, requests := front ++ back } =
            offerReceived (d.party x) := by
          simp [offerReceived, hstate]
        simp only [heldCount, hreceived, hcount, closes, reduceCtorEq, false_or,
          Role.refusal.injEq, decide_eq_true_eq]
        omega
      · simp only [hstate]
        exact .inl
      · simp only [hstate]
        exact id
  | offer _ _ hsdp =>
      simp [SipMessage.carriesSdp, hbody] at hsdp
  | answer hanswering hoffer _ _ _ _ => exact absurd hoffer (hone _ hanswering)
  | refusal hanswering hoffer _ _ => exact absurd hoffer (hone _ hanswering)

theorem offerSent_of_places (h : Agreed d) {n : Nat} (hpos : 0 < offerPlaces d x n) :
    offerSent (d.party x) = some n ∧ offerPlaces d x n = 1 := by
  have hplaces := h.places x n
  unfold sentCount at hplaces
  split at hplaces
  · rename_i hsent
    exact ⟨hsent, hplaces⟩
  · omega

theorem countP_pos_of_mem {α : Type} {p : α → Bool} {l : List α} {a : α} (ha : a ∈ l) (hp : p a) :
    0 < l.countP p := List.countP_pos_iff.mpr ⟨a, ha, hp⟩

theorem pending_of_closes (h : Agreed d) {m : Message} (hm : m ∈ d.wire x) {n : Nat}
    (hcloses : closes n m) :
    (d.party x.other).oa.state.offering ∧ (d.party x.other).offer = some n := by
  have hpos := countP_pos_of_mem hm hcloses
  have hplaces : 0 < offerPlaces d x.other n := by
    unfold offerPlaces
    rw [Side.other_other]
    omega
  obtain ⟨hsent, -⟩ := offerSent_of_places h hplaces
  unfold offerSent at hsent
  split at hsent
  · exact ⟨by assumption, hsent⟩
  · exact absurd hsent nofun

theorem not_answering_of_makes (h : Agreed d) {m : Message} (hm : m ∈ d.wire x) {n : Nat}
    (hmakes : makes n m) : (d.party x.other).oa.state.answering = false := by
  by_contra hanswering
  have hanswering : (d.party x.other).oa.state.answering := by simpa using hanswering
  obtain ⟨k, hk⟩ := Option.isSome_iff_exists.mp
    (h.pending x.other (answering_spec hanswering).1)
  have hheld := (counts_eq (d.party x.other) k).2.2.1 hanswering
  rw [hk, if_pos rfl] at hheld
  have hpos := countP_pos_of_mem hm hmakes
  obtain ⟨hsentk, -⟩ := offerSent_of_places h (x := x) (n := k) (by unfold offerPlaces; omega)
  obtain ⟨hsentn, hone⟩ := offerSent_of_places h (x := x) (n := n) (by unfold offerPlaces; omega)
  obtain rfl : k = n := Option.some.inj (hsentk.symm.trans hsentn)
  unfold offerPlaces at hone
  omega

theorem countP_rejected_append {requests added : List Request} (n : Nat)
    (hadded : ∀ r ∈ added, r.rejected = none) :
    (requests ++ added).countP (·.rejected = some n) = requests.countP (·.rejected = some n) := by
  have hzero : added.countP (·.rejected = some n) = 0 := by
    rw [List.countP_eq_zero]
    intro r hr
    simp [hadded r hr]
  rw [List.countP_append, hzero, Nat.add_zero]

theorem Agreed.deliver (h : Agreed d) {m : Message} {rest : List Message}
    (hwire : d.wire x = m :: rest) (hunderstood : d.Understood (.deliver x)) {e : Bool} :
    Agreed (d.arrive x ((d.party x.other).receive m e) rest) := by
  have hm : m ∈ d.wire x := by
    rw [hwire]
    exact List.mem_cons_self
  have htakes : Dialog.takesAsSent (d.party x.other).oa m := by
    simp only [Dialog.Understood, hwire] at hunderstood
    exact hunderstood
  obtain ⟨hpendingOnly, hsettledOnly⟩ := takesAsSent_spec htakes
  obtain ⟨hreceives, hpreview⟩ := receive_spec (e := e) (h.preview x.other) (h.wellFormed x m hm)
    (fun n hn => not_answering_of_makes h hm (n := n) (by simp [makes, hn]))
    (fun n hn => pending_of_closes h hm (n := n) (by simpa [closes] using hn))
    hpendingOnly hsettledOnly
  have hpending := h.pending x.other
  generalize (d.party x.other).receive m e = p at hreceives hpreview
  cases hreceives with
  | @nothing oa added hrole hstate hadded =>
      refine h.arrive hwire hpreview ?_ ?_ ?_ ?_ ?_
      · simpa only [hstate] using hpending
      · intro n
        simp [heldCount, offerReceived, hstate, countP_rejected_append n hadded, makes, hrole]
      · intro n
        simp [sentCount, offerSent, hstate, closes, hrole]
      · simp only [hstate]
        exact .inl
      · simp only [hstate, hrole, reduceCtorEq, exists_false, or_false]
        exact id
  | @offer oa n added hrole hsettled hstate hadded =>
      obtain ⟨hanswering, hsession⟩ := offerTaken_spec hsettled
      obtain ⟨hnotOffering, hnotAnswering⟩ := settled_spec hsettled
      rw [← hstate] at hanswering hsession
      obtain ⟨-, hnotOffering'⟩ := answering_spec hanswering
      refine h.arrive hwire hpreview ?_ ?_ ?_ ?_ ?_
      · exact fun _ => rfl
      · intro k
        rw [(counts_eq _ k).2.2.2 hnotAnswering, (counts_eq _ k).2.2.1 hanswering]
        simp only [countP_rejected_append k hadded, makes, hrole, Role.offer.injEq,
          Option.some.injEq, decide_eq_true_eq]
        omega
      · intro k
        rw [(counts_eq _ k).2.1 hnotOffering, (counts_eq _ k).2.1 hnotOffering']
        simp [closes, hrole]
      · simp only [hsession]
        exact .inl
      · simp only [hsession, hrole, reduceCtorEq, exists_false, or_false]
        exact id
  | @rejected oa n request hrole hoffering hstate hrejected =>
      refine h.arrive hwire hpreview ?_ ?_ ?_ ?_ ?_
      · simpa only [hstate] using hpending
      · intro k
        have hreceived : offerReceived { d.party x.other with
            oa := oa, requests := (d.party x.other).requests ++ [request] } =
            offerReceived (d.party x.other) := by
          simp [offerReceived, hstate]
        simp only [heldCount, hreceived, List.countP_append, List.countP_singleton, hrejected, makes,
          hrole, Role.offer.injEq, Option.some.injEq, decide_eq_true_eq]
        omega
      · intro k
        simp [sentCount, offerSent, hstate, closes, hrole]
      · simp only [hstate]
        exact .inl
      · simp only [hstate, hrole, reduceCtorEq, exists_false, or_false]
        exact id
  | @answer oa n added hrole hoffering hoffer hstate hadded =>
      obtain ⟨-, hnotAnswering⟩ := offering_spec hoffering
      have hnotOffering' : oa.state.offering = false := by
        rw [hstate]
        rfl
      have hnotAnswering' : oa.state.answering = false := by
        rw [hstate]
        rfl
      refine h.arrive hwire hpreview ?_ ?_ ?_ ?_ ?_
      · simp only [hstate]
        exact nofun
      · intro k
        rw [(counts_eq _ k).2.2.2 hnotAnswering, (counts_eq _ k).2.2.2 hnotAnswering']
        simp [countP_rejected_append k hadded, makes, hrole]
      · intro k
        rw [(counts_eq _ k).1 hoffering, (counts_eq _ k).2.1 hnotOffering', hoffer]
        simp [closes, hrole]
      · exact fun _ => .inr ⟨n, hrole⟩
      · intro _
        simp only [hstate]
        rfl
  | @refusal oa n added hrole hoffering hoffer hstate hadded =>
      obtain ⟨-, hnotAnswering⟩ := offering_spec hoffering
      obtain ⟨hsettled', hsession⟩ := offerRefused_spec (d.party x.other).oa.state
      rw [← hstate] at hsettled' hsession
      obtain ⟨hnotOffering', hnotAnswering'⟩ := settled_spec hsettled'
      refine h.arrive hwire hpreview ?_ ?_ ?_ ?_ ?_
      · intro hnot
        exact absurd (hsettled'.symm.trans hnot) (by decide)
      · intro k
        rw [(counts_eq _ k).2.2.2 hnotAnswering, (counts_eq _ k).2.2.2 hnotAnswering']
        simp [countP_rejected_append k hadded, makes, hrole]
      · intro k
        rw [(counts_eq _ k).1 hoffering, (counts_eq _ k).2.1 hnotOffering', hoffer]
        simp [closes, hrole]
      · simp only [hsession]
        exact .inl
      · simp only [hsession, hrole, reduceCtorEq, exists_false, or_false]
        exact id

theorem agreed_init {P : Type} {d : Dialog P} (h : (dialog P).Init d) : Agreed d := by
  obtain ⟨oa, hidle, rfl⟩ := h
  have hcounts : ∀ x n, sentCount (P := P) { oa := oa x } n = 0 ∧
      heldCount (P := P) { oa := oa x } n = 0 := by
    intro x n
    have hoffering : (oa x).state.offering = false := by
      rw [(hidle x).1]
      rfl
    have hanswering : (oa x).state.answering = false := by
      rw [(hidle x).1]
      rfl
    simp [sentCount, heldCount, offerSent, offerReceived, hoffering, hanswering]
  refine ⟨fun x => (hidle x).2, ?_, ?_, ?_, nofun, nofun, ?_⟩
  · intro x hx
    simp only [(hidle x).1] at hx
    exact absurd hx (by decide)
  · intro x n
    simp [offerPlaces, (hcounts x n).1, (hcounts x.other n).2]
  · intro x n hn
    simp [offerSent] at hn
  · intro x hx
    simp only [(hidle x).1] at hx
    exact absurd hx (by decide)

theorem agreed_step {d d' : Dialog P} {event : DialogEvent} (h : Agreed d)
    (hunderstood : d.Understood event) (hstep : DialogStep d event d') : Agreed d' := by
  cases hstep with
  | sendRequest x msg e hrequest hmethod hbody =>
      obtain ⟨hsends, hpreview⟩ := send_spec (h.preview x) (h.pending x) msg e d.nextOffer
      have hchallenge : msg.isChallenge = false := by simp [SipMessage.isChallenge, hrequest]
      exact h.send hsends hpreview hchallenge (d.party x).requests fun _ => rfl
  | sendResponse x msg e front back request hrequests hresponds =>
      obtain ⟨hsends, hpreview⟩ := send_spec (h.preview x) (h.pending x) msg e d.nextOffer
      cases hrejected : request.rejected with
      | none =>
          refine h.send hsends hpreview hresponds.challenge _ fun n => ?_
          split
          · rw [hrequests]
            simp [hrejected]
          · rfl
      | some n =>
          obtain ⟨hfailure, hbody⟩ := hresponds.rejected (by rw [hrejected]; rfl)
          simp only [hfailure, Bool.or_true, ↓reduceIte]
          exact h.refuse hsends hpreview hresponds.challenge hfailure hbody hrequests hrejected
  | deliver x m rest e hwire => exact h.deliver hwire hunderstood

end Run

/-- In every run that takes each message for what it was sent as, the states of
the two endpoints go together whenever no message is on its way and no request
waits for a response. -/
theorem dual_of_quiescent {d : Dialog P}
    (h : ((dialog P).restrict Dialog.Understood).Reachable d) (hquiescent : d.Quiescent)
    (x : Side) : (d.party x.other).oa.state = (d.party x).oa.state.dual := by
  have hagreed : Agreed d := by
    refine h.invariant ?_ ?_
    · intro d hinit
      exact agreed_init hinit
    · rintro d event d' hd ⟨hunderstood, hstep⟩
      exact agreed_step hd hunderstood hstep
  have hpending : ∀ y, ((d.party y).oa.state.offering ↔ (d.party y.other).oa.state.answering) := by
    intro y
    obtain ⟨hy, -⟩ := hquiescent y
    obtain ⟨hother, hrequests⟩ := hquiescent y.other
    have hplaces : ∀ n, heldCount (d.party y.other) n = sentCount (d.party y) n := by
      intro n
      have h := hagreed.places y n
      simpa [offerPlaces, hy, hother] using h
    constructor
    · intro hoffering
      obtain ⟨n, hn⟩ := Option.isSome_iff_exists.mp
        (hagreed.pending y (offering_spec hoffering).1)
      have hcount := hplaces n
      rw [(counts_eq _ n).1 hoffering, hn, if_pos rfl] at hcount
      by_contra hnot
      rw [(counts_eq _ n).2.2.2 (by simpa using hnot), hrequests] at hcount
      exact absurd hcount (by simp)
    · intro hanswering
      obtain ⟨n, hn⟩ := Option.isSome_iff_exists.mp
        (hagreed.pending y.other (answering_spec hanswering).1)
      have hcount := hplaces n
      rw [(counts_eq _ n).2.2.1 hanswering, hn, if_pos rfl] at hcount
      by_contra hnot
      rw [(counts_eq _ n).2.1 (by simpa using hnot)] at hcount
      omega
  have hsession : ∀ y, (d.party y).oa.state.hasSession → (d.party y.other).oa.state.hasSession := by
    intro y hy
    rcases hagreed.session y hy with hother | ⟨m, hm, -⟩
    · exact hother
    · rw [(hquiescent y).1] at hm
      exact absurd hm nofun
  have hx := hpending x
  have hother := hpending x.other
  have hsx := hsession x
  have hsother := hsession x.other
  rw [Side.other_other] at hother hsother
  generalize (d.party x).oa.state = s at *
  generalize (d.party x.other).oa.state = s' at *
  cases s <;> cases s' <;> simp_all [State.offering, State.answering, State.hasSession, State.dual]

section Runs

theorem next {d d' : Dialog P} {event : DialogEvent} {allowed : Dialog P → DialogEvent → Prop}
    (h : ((dialog P).restrict allowed).Reachable d) (hstep : DialogStep d event d')
    (hallowed : allowed d event) : ((dialog P).restrict allowed).Reachable d' :=
  h.step event ⟨hallowed, hstep⟩

def newDialog : Dialog Unit :=
  { party := fun _ => { oa := { capabilities := () } }, wire := fun _ => [], nextOffer := 0 }

theorem newDialog_init : (dialog Unit).Init newDialog :=
  ⟨fun _ => { capabilities := () }, fun _ => ⟨rfl, rfl⟩, rfl⟩

def request (method : SipMethod) (sdp : Bool) : SipMessage :=
  { method := method, sdpBodyPart := if sdp then some "v=0".toList else none }

def response (method : SipMethod) (code : Nat) (sdp : Bool) : SipMessage :=
  { method := method, statusCode := some code, sdpBodyPart := if sdp then some "v=0".toList else none }

/-- An INVITE with an offer is answered in its 200. -/
theorem dual_of_quiescent_invite : ∃ d : Dialog Unit, d.Quiescent ∧
    (d.party .caller).oa.state = .established ∧
    ∀ x, (d.party x.other).oa.state = (d.party x).oa.state.dual := by
  have h0 : ((dialog Unit).restrict Dialog.Understood).Reachable newDialog := .init newDialog_init
  have h1 := next h0
    (.sendRequest _ .caller (request .invite true) false rfl (by decide) (by decide)) trivial
  have h2 := next h1 (.deliver _ .caller _ _ false rfl) rfl
  have h3 := next h2
    (.sendResponse _ .callee (response .invite 200 true) false [] [] _ rfl
      ⟨rfl, rfl, rfl, by decide, by decide⟩) trivial
  have h4 := next h3 (.deliver _ .callee _ _ false rfl) rfl
  exact ⟨_, fun x => by cases x <;> exact ⟨rfl, rfl⟩, by decide, dual_of_quiescent h4 fun x => by
    cases x <;> exact ⟨rfl, rfl⟩⟩

/-- While the caller's UPDATE waits for its answer the callee refuses a re-INVITE
without SDP, which makes both give up the offer of the UPDATE.  The answer in its
200 is then an offer for the callee, and a stray answer for the caller. -/
theorem not_dual_of_quiescent : ¬∀ d : Dialog Unit, (dialog Unit).Reachable d → d.Quiescent →
    ∀ x, (d.party x.other).oa.state = (d.party x).oa.state.dual := by
  intro h
  have h0 : ((dialog Unit).restrict fun _ _ => True).Reachable newDialog := .init newDialog_init
  have h1 := next h0
    (.sendRequest _ .caller (request .invite true) false rfl (by decide) (by decide)) trivial
  have h2 := next h1 (.deliver _ .caller _ _ false rfl) trivial
  have h3 := next h2
    (.sendResponse _ .callee (response .invite 200 true) false [] [] _ rfl
      ⟨rfl, rfl, rfl, by decide, by decide⟩) trivial
  have h4 := next h3 (.deliver _ .callee _ _ false rfl) trivial
  have h5 := next h4
    (.sendRequest _ .caller (request .ack false) false rfl (by decide) (by decide)) trivial
  have h6 := next h5 (.deliver _ .caller _ _ false rfl) trivial
  have h7 := next h6
    (.sendRequest _ .caller (request .invite false) false rfl (by decide) (by decide)) trivial
  have h8 := next h7
    (.sendRequest _ .caller (request .update true) false rfl (by decide) (by decide)) trivial
  have h9 := next h8 (.deliver _ .caller _ _ false rfl) trivial
  have h10 := next h9 (.deliver _ .caller _ _ false rfl) trivial
  have h11 := next h10
    (.sendResponse _ .callee (response .invite 500 false) false [] [_] _ rfl
      ⟨rfl, rfl, rfl, by decide, by decide⟩) trivial
  have h12 := next h11
    (.sendResponse _ .callee (response .update 200 true) false [] [] _ rfl
      ⟨rfl, rfl, rfl, by decide, by decide⟩) trivial
  have h13 := next h12 (.deliver _ .callee _ _ false rfl) trivial
  have h14 := next h13 (.deliver _ .callee _ _ false rfl) trivial
  have hdual := h _ h14.of_restrict (fun x => by cases x <;> exact ⟨rfl, rfl⟩) .caller
  exact absurd hdual (by decide)

end Runs

end ImsStack.OfferAnswer.Agreement
