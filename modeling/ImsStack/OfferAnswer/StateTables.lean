import ImsStack.OfferAnswer.SdpOaState

/-!
What `UpdateState` makes of the offer/answer state, by the kind of the state and
of the message, for a session that is not in preview mode and takes no part of
the exchange from an unreliable provisional response.
-/

namespace ImsStack.OfferAnswer

namespace State

/-- An offer of the endpoint is pending. -/
def offering : State → Bool
  | .offerSent | .offerChangeSent => true
  | _ => false

/-- An offer of the peer is pending. -/
def answering : State → Bool
  | .offerReceived | .offerChangeReceived => true
  | _ => false

/-- No offer is pending. -/
def settled : State → Bool
  | .idle | .established => true
  | _ => false

/-- An exchange has been completed. -/
def hasSession : State → Bool
  | .established | .offerChangeSent | .offerChangeReceived => true
  | _ => false

def offerMade : State → State
  | .idle => .offerSent
  | .established => .offerChangeSent
  | s => s

def offerTaken : State → State
  | .idle => .offerReceived
  | .established => .offerChangeReceived
  | s => s

/-- The state before the pending offer. -/
def offerRefused : State → State
  | .offerSent | .offerReceived => .idle
  | .offerChangeSent | .offerChangeReceived => .established
  | s => s

end State

namespace SipMessage

/-- The message carries an SDP body that takes part in the exchange. -/
def carriesSdp (msg : SipMessage) : Bool :=
  msg.sdpBodyPart.isSome && msg.method != .other &&
    match msg.statusCode with
    | none => true
    | some code => (isProvisional code && msg.messageRpr) || isFinalSuccess code

def isFailure (msg : SipMessage) : Bool :=
  msg.method != .other &&
    match msg.statusCode with
    | none => false
    | some code => code != 100 && !isProvisional code && !isFinalSuccess code

def isInviteOrUpdate (msg : SipMessage) : Bool :=
  msg.statusCode.isNone && (msg.method == .invite || msg.method == .update)

def isAck (msg : SipMessage) : Bool := msg.statusCode.isNone && msg.method == .ack

def isSuccess (msg : SipMessage) : Bool :=
  match msg.statusCode with
  | none => false
  | some code => isFinalSuccess code

/-- The response a client repeats its request for. -/
def isChallenge (msg : SipMessage) : Bool :=
  msg.statusCode == some 401 || msg.statusCode == some 407

end SipMessage

namespace SdpOaState

variable {P : Type} {s : SdpOaState P} {msg : SipMessage} {flow : MessageFlow}
  {isCallEstablished : Bool}

/-- A body that reaches the endpoint between exchanges is taken for an offer. -/
def takesOffer (s : SdpOaState P) (msg : SipMessage) : Bool :=
  msg.carriesSdp && !msg.isAck &&
    !(s.state == .established && msg.isSuccess &&
      (msg.method == .update || (msg.method == .invite && s.provisionalRespWithSdp)))

/-- What `messageTrigger` finds in a message. -/
inductive MessageTrigger (s : SdpOaState P) (msg : SipMessage) (flow : MessageFlow) :
    SdpOaState P × Option Trigger → Prop where
  | ignored {flag : Bool} : msg.isFailure = false ∨ (flow = .received ∧ msg.isChallenge) →
      (msg.carriesSdp = false ∨ (s.state = .established ∧ msg.isSuccess ∧ msg.method = .invite ∧
        s.provisionalRespWithSdp)) →
      MessageTrigger s msg flow ({ s with provisionalRespWithSdp := flag }, none)
  | failure {flag : Bool} : msg.isFailure → msg.carriesSdp = false →
      MessageTrigger s msg flow ({ s with provisionalRespWithSdp := flag }, some .failureResp)
  | request {trigger : Trigger} : msg.carriesSdp → msg.isFailure = false →
      msg.statusCode = none → methodTrigger msg.method = some trigger →
      MessageTrigger s msg flow (s, some trigger)
  | rpr : msg.carriesSdp → msg.isFailure = false → msg.isAck = false →
      msg.isInviteOrUpdate = false → msg.isSuccess = false →
      MessageTrigger s msg flow (s, some .rpr)
  | success : msg.carriesSdp → msg.isFailure = false → msg.isAck = false →
      msg.isInviteOrUpdate = false → msg.isSuccess →
      ¬(s.state = .established ∧ msg.method = .invite ∧ s.provisionalRespWithSdp) →
      MessageTrigger s msg flow (s, some .successResp)

theorem MessageTrigger.ignored_self (hfailure : msg.isFailure = false)
    (hsdp : msg.carriesSdp = false) : MessageTrigger s msg flow (s, none) :=
  @ignored _ s msg flow s.provisionalRespWithSdp (.inl hfailure) (.inl hsdp)

theorem messageTrigger_spec (msg : SipMessage) (flow : MessageFlow) (isCallEstablished : Bool)
    (hpreview : s.previewMode = false) :
    MessageTrigger s msg flow (s.messageTrigger msg flow isCallEstablished false) := by
  obtain ⟨method, statusCode, rpr, body⟩ := msg
  by_cases hother : method = .other
  · subst hother
    exact .ignored_self rfl (by simp [SipMessage.carriesSdp])
  · obtain ⟨trigger, htrigger⟩ : ∃ trigger, methodTrigger method = some trigger := by
      cases method <;> simp_all [methodTrigger]
    have hmethod : (method != .other) = true := by simpa using hother
    cases statusCode with
    | none =>
        have hkind : trigger ≠ .provisionalResp ∧ trigger ≠ .failureResp := by
          cases method <;> simp [methodTrigger] at htrigger <;> subst htrigger <;> decide
        cases body with
        | none =>
            have heq : s.messageTrigger ⟨method, none, rpr, none⟩ flow isCallEstablished false =
                (s, none) := by
              simp [messageTrigger, htrigger, hkind]
            rw [heq]
            exact .ignored_self (by simp [SipMessage.isFailure]) (by simp [SipMessage.carriesSdp])
        | some body =>
            have heq : s.messageTrigger ⟨method, none, rpr, some body⟩ flow isCallEstablished false =
                (s, some trigger) := by
              simp [messageTrigger, htrigger, hkind]
            rw [heq]
            exact .request (by simp [SipMessage.carriesSdp, hother])
              (by simp [SipMessage.isFailure]) rfl htrigger
    | some code =>
        have hack : (SipMessage.mk method (some code) rpr body).isAck = false := by
          simp [SipMessage.isAck]
        have hinvite : (SipMessage.mk method (some code) rpr body).isInviteOrUpdate = false := by
          simp [SipMessage.isInviteOrUpdate]
        by_cases htrying : code = 100
        · subst htrying
          have heq : s.messageTrigger ⟨method, some 100, rpr, body⟩ flow isCallEstablished false =
              (s, none) := by
            simp [messageTrigger, htrigger, responseTrigger]
          rw [heq]
          exact .ignored_self (by simp [SipMessage.isFailure])
            (by simp [SipMessage.carriesSdp, isProvisional, isFinalSuccess])
        · by_cases hprov : isProvisional code
          · have hsuccess : isFinalSuccess code = false := by
              simp only [isProvisional, isFinalSuccess, decide_eq_true_eq, decide_eq_false_iff_not]
                at *
              omega
            have hfailure : (SipMessage.mk method (some code) rpr body).isFailure = false := by
              simp [SipMessage.isFailure, hprov]
            cases rpr with
            | false =>
                have heq : s.messageTrigger ⟨method, some code, false, body⟩ flow isCallEstablished
                    false = (s, none) := by
                  by_cases hflag : s.state = .established ∧ s.provisionalRespWithSdp
                  · simp [messageTrigger, htrigger, responseTrigger, htrying, hprov, hpreview,
                      hflag]
                  · simp [messageTrigger, htrigger, responseTrigger, htrying, hprov, hpreview,
                      hflag]
                rw [heq]
                exact .ignored_self hfailure (by simp [SipMessage.carriesSdp, hsuccess])
            | true =>
                cases body with
                | none =>
                    have heq : s.messageTrigger ⟨method, some code, true, none⟩ flow
                        isCallEstablished false = (s, none) := by
                      simp [messageTrigger, htrigger, responseTrigger, htrying, hprov]
                    rw [heq]
                    exact .ignored_self hfailure (by simp [SipMessage.carriesSdp])
                | some body =>
                    have heq : s.messageTrigger ⟨method, some code, true, some body⟩ flow
                        isCallEstablished false = (s, some .rpr) := by
                      simp [messageTrigger, htrigger, responseTrigger, htrying, hprov]
                    rw [heq]
                    exact .rpr (by simp [SipMessage.carriesSdp, hprov, hother]) hfailure hack
                      hinvite (by simp [SipMessage.isSuccess, hsuccess])
          · by_cases hsuccess : isFinalSuccess code
            · have hfailure : (SipMessage.mk method (some code) rpr body).isFailure = false := by
                simp [SipMessage.isFailure, hsuccess]
              by_cases hflag : s.state = .established ∧ s.provisionalRespWithSdp ∧ method = .invite
              · obtain ⟨hstate, hprs, rfl⟩ := hflag
                have heq : s.messageTrigger ⟨.invite, some code, rpr, body⟩ flow isCallEstablished
                    false = ({ s with provisionalRespWithSdp := false }, none) := by
                  simp [messageTrigger, methodTrigger, responseTrigger, htrying, hprov, hsuccess,
                    hstate, hprs]
                rw [heq]
                exact .ignored (.inl hfailure) (.inr ⟨hstate, hsuccess, rfl, hprs⟩)
              · cases body with
                | none =>
                    have heq : s.messageTrigger ⟨method, some code, rpr, none⟩ flow
                        isCallEstablished false = (s, none) := by
                      simp [messageTrigger, htrigger, responseTrigger, htrying, hprov, hsuccess,
                        hflag]
                    rw [heq]
                    exact .ignored_self hfailure (by simp [SipMessage.carriesSdp])
                | some body =>
                    have heq : s.messageTrigger ⟨method, some code, rpr, some body⟩ flow
                        isCallEstablished false = (s, some .successResp) := by
                      simp [messageTrigger, htrigger, responseTrigger, htrying, hprov, hsuccess,
                        hflag]
                    rw [heq]
                    exact .success (by simp [SipMessage.carriesSdp, hsuccess, hother]) hfailure
                      hack hinvite hsuccess fun h => hflag ⟨h.1, h.2.2, h.2.1⟩
            · have hfailure : (SipMessage.mk method (some code) rpr body).isFailure := by
                simp [SipMessage.isFailure, hprov, hsuccess, htrying, hother]
              have hsdp : (SipMessage.mk method (some code) rpr body).carriesSdp = false := by
                simp [SipMessage.carriesSdp, hprov, hsuccess]
              obtain ⟨flag, hflag⟩ : ∃ flag, s.responseTrigger ⟨method, some code, rpr, body⟩ code
                  false = ({ s with provisionalRespWithSdp := flag }, some .failureResp) := by
                by_cases hflag : s.provisionalRespWithSdp ∧ method = .invite
                · exact ⟨false, by simp [responseTrigger, htrying, hprov, hsuccess, hflag]⟩
                · exact ⟨s.provisionalRespWithSdp, by
                    simp [responseTrigger, htrying, hprov, hsuccess, hflag]⟩
              by_cases hchallenge : flow = .received ∧ method ≠ .invite ∧ (code = 401 ∨ code = 407) ∧
                  !(isCallEstablished && method = .update)
              · have heq : s.messageTrigger ⟨method, some code, rpr, body⟩ flow isCallEstablished
                    false = ({ s with provisionalRespWithSdp := flag }, none) := by
                  simp only [messageTrigger, htrigger, hflag]
                  simp_all
                rw [heq]
                refine .ignored (.inr ⟨hchallenge.1, ?_⟩) (.inl hsdp)
                simpa [SipMessage.isChallenge] using hchallenge.2.2.1
              · have heq : s.messageTrigger ⟨method, some code, rpr, body⟩ flow isCallEstablished
                    false = ({ s with provisionalRespWithSdp := flag }, some .failureResp) := by
                  simp only [messageTrigger, htrigger, hflag]
                  simp_all
                rw [heq]
                exact .failure hfailure hsdp

section Tables

theorem setCapabilities_state (s : SdpOaState P) : s.setCapabilities.state = s.state := by
  unfold setCapabilities
  split <;> rfl

theorem setCapabilities_previewMode (s : SdpOaState P) :
    s.setCapabilities.previewMode = s.previewMode := by
  unfold setCapabilities
  split <;> rfl

theorem updateStateSent_state (s : SdpOaState P) (trigger : Trigger) :
    (s.updateStateSent trigger).1.state = (stateSent s.state trigger).getD s.state ∧
      (s.updateStateSent trigger).2 = (stateSent s.state trigger).isSome ∧
      (s.updateStateSent trigger).1.previewMode = s.previewMode := by
  rcases hnext : stateSent s.state trigger with _ | updateState
  · simp [updateStateSent, hnext]
  · simp only [updateStateSent, hnext, noteStateChange]
    refine ⟨?_, rfl, ?_⟩
    · split <;> split <;> simp [setCapabilities_state]
    · split <;> split <;> simp [setCapabilities_previewMode]

/-- The state a message received leads to, but for the answer to an UPDATE that
the endpoint does not wait for. -/
theorem updateStateReceived_state (msg : SipMessage) (hpreview : s.previewMode = false)
    (trigger : Trigger) :
    (s.updateStateReceived msg trigger).1.state =
        (if msg.method = .update ∧ trigger = .successResp ∧
            stateReceived s.state trigger = some .offerChangeReceived then s.state
          else (stateReceived s.state trigger).getD s.state) ∧
      (s.updateStateReceived msg trigger).2 = (stateReceived s.state trigger).isSome ∧
      (s.updateStateReceived msg trigger).1.previewMode = false := by
  rcases hnext : stateReceived s.state trigger with _ | updateState
  · simp [updateStateReceived, hnext, hpreview]
  · by_cases hstray : msg.method = .update ∧ updateState = .offerChangeReceived ∧
          trigger = .successResp
    · obtain ⟨hmethod, rfl, rfl⟩ := hstray
      simp [updateStateReceived, hnext, hmethod, hpreview]
    · have hstray' : ¬(msg.method = .update ∧ updateState = .offerChangeReceived ∧
          (trigger = .successResp ∨ s.previewMode = true)) := by
        simpa [hpreview] using hstray
      have hstray'' : ¬(msg.method = .update ∧ trigger = .successResp ∧
          some updateState = some State.offerChangeReceived) := by
        simp only [Option.some.injEq]
        tauto
      have hpreview' : ¬(s.previewMode = true ∧ updateState = .offerChangeReceived ∧
          (trigger = .rpr ∨ trigger = .provisionalResp ∨ trigger = .successResp)) := by
        simp [hpreview]
      rw [if_neg hstray'', updateStateReceived, hnext]
      simp only
      rw [if_neg hstray', if_neg hpreview']
      refine ⟨?_, rfl, ?_⟩
      · simp only [noteStateChange]
        split <;> rfl
      · simp only [noteStateChange]
        split <;> exact hpreview

end Tables

section UpdateState

theorem MessageTrigger.unchanged {result : SdpOaState P × Option Trigger}
    (h : MessageTrigger s msg flow result) :
    result.1.state = s.state ∧ result.1.previewMode = s.previewMode := by
  cases h <;> exact ⟨rfl, rfl⟩

theorem updateState_sent (msg : SipMessage) (isCallEstablished : Bool)
    (hpreview : s.previewMode = false) :
    ∃ result, MessageTrigger { s with offerProgress := false, stateChanged := false } msg .sent
        result ∧
      (s.updateState msg .sent isCallEstablished false).1.previewMode = false ∧
      (s.updateState msg .sent isCallEstablished false).1.state =
        (match result.2 with
          | none => s.state
          | some trigger => (stateSent s.state trigger).getD s.state) := by
  have hspec := messageTrigger_spec msg .sent isCallEstablished
    (s := { s with offerProgress := false, stateChanged := false }) hpreview
  refine ⟨_, hspec, ?_⟩
  obtain ⟨hstate, hpreview'⟩ := hspec.unchanged
  simp only [updateState, ↓reduceIte]
  generalize messageTrigger { s with offerProgress := false, stateChanged := false } msg .sent
    isCallEstablished false = result at hstate hpreview' ⊢
  obtain ⟨s', _ | trigger⟩ := result
  · exact ⟨hpreview'.trans hpreview, hstate⟩
  · obtain ⟨hnext, -, hsame⟩ := updateStateSent_state s' trigger
    simp only at hstate hpreview' ⊢
    rw [hnext, hsame, hstate, hpreview', hpreview]
    exact ⟨rfl, rfl⟩

/-- A message received leads to the state the table has for its trigger, or is a
stray answer to an UPDATE. -/
theorem updateState_received (msg : SipMessage) (isCallEstablished : Bool)
    (hpreview : s.previewMode = false) :
    ∃ result, MessageTrigger { s with stateChanged := false } msg .received result ∧
      (s.updateState msg .received isCallEstablished false).1.previewMode = false ∧
      (s.updateState msg .received isCallEstablished false).1.state =
        (match result.2 with
          | none => s.state
          | some trigger =>
            if msg.method = .update ∧ trigger = .successResp ∧
                stateReceived s.state trigger = some .offerChangeReceived then s.state
            else (stateReceived s.state trigger).getD s.state) ∧
      (s.updateState msg .received isCallEstablished false).2 =
        (match result.2 with
          | none => true
          | some trigger => (stateReceived s.state trigger).isSome) := by
  have hspec := messageTrigger_spec msg .received isCallEstablished
    (s := { s with stateChanged := false }) hpreview
  refine ⟨_, hspec, ?_⟩
  obtain ⟨hstate, hpreview'⟩ := hspec.unchanged
  simp only [updateState, reduceCtorEq, ↓reduceIte]
  generalize messageTrigger { s with stateChanged := false } msg .received
    isCallEstablished false = result at hstate hpreview' ⊢
  obtain ⟨s', _ | trigger⟩ := result
  · exact ⟨hpreview'.trans hpreview, hstate, rfl⟩
  · obtain ⟨hnext, haccepted, hsame⟩ :=
      updateStateReceived_state (s := s') msg (hpreview'.trans hpreview) trigger
    simp only at hstate ⊢
    rw [hnext, haccepted, hsame, hstate]
    exact ⟨rfl, rfl, rfl⟩

theorem sent_settled (msg : SipMessage) (isCallEstablished : Bool)
    (hpreview : s.previewMode = false) (hstate : s.state.settled) :
    (s.updateState msg .sent isCallEstablished false).1.state = s.state ∨
      ((s.updateState msg .sent isCallEstablished false).1.state = s.state.offerMade ∧
        msg.carriesSdp ∧ msg.isAck = false) := by
  obtain ⟨result, hspec, -, hnext⟩ := updateState_sent msg isCallEstablished hpreview
  rw [hnext]
  generalize s.state = state at *
  cases hspec with
  | ignored _ _ => exact .inl rfl
  | failure _ _ => cases state <;> simp_all [State.settled.eq_def, stateSent.eq_def]
  | @request trigger hsdp _ hrequest hmethod =>
      cases hkind : msg.method <;> rw [hkind] at hmethod <;>
        simp only [methodTrigger, Option.some.injEq, reduceCtorEq] at hmethod <;> subst hmethod <;>
        cases state <;>
        simp_all [State.settled.eq_def, stateSent.eq_def, State.offerMade.eq_def, SipMessage.isAck]
  | rpr hsdp _ hack _ _ => cases state <;> simp_all [State.settled.eq_def, stateSent.eq_def, State.offerMade.eq_def]
  | success hsdp _ hack _ _ _ =>
      cases state <;> simp_all [State.settled.eq_def, stateSent.eq_def, State.offerMade.eq_def]

theorem sent_offering (msg : SipMessage) (isCallEstablished : Bool)
    (hpreview : s.previewMode = false) (hstate : s.state.offering) :
    (s.updateState msg .sent isCallEstablished false).1.state = s.state := by
  obtain ⟨result, -, -, hnext⟩ := updateState_sent msg isCallEstablished hpreview
  rw [hnext]
  obtain ⟨s', _ | trigger⟩ := result
  · rfl
  · generalize s.state = state at *
    cases state <;> cases trigger <;> simp_all [State.offering.eq_def, stateSent.eq_def]

/-- With an offer of the peer pending, a failure response refuses it and a body
answers it. -/
theorem sent_answering (msg : SipMessage) (isCallEstablished : Bool)
    (hpreview : s.previewMode = false) (hstate : s.state.answering) :
    (s.updateState msg .sent isCallEstablished false).1.state =
      if msg.isFailure then s.state.offerRefused
      else if msg.carriesSdp ∧ msg.isInviteOrUpdate = false then .established
      else s.state := by
  obtain ⟨result, hspec, -, hnext⟩ := updateState_sent msg isCallEstablished hpreview
  rw [hnext]
  have hnot : ¬s.state = .established := by
    intro h
    rw [h] at hstate
    exact absurd hstate (by decide)
  cases hspec with
  | ignored hfailure hsdp =>
      have hfailure' : msg.isFailure = false := hfailure.resolve_right fun h => absurd h.1 (by decide)
      have hsdp' : msg.carriesSdp = false := hsdp.resolve_right fun h => hnot h.1
      simp [hfailure', hsdp']
  | failure hfailure hsdp =>
      generalize s.state = state at *
      cases state <;> simp_all [State.answering.eq_def, stateSent.eq_def, State.offerRefused.eq_def]
  | @request trigger hsdp hfailure hrequest hmethod =>
      generalize s.state = state at *
      cases hkind : msg.method <;> rw [hkind] at hmethod <;>
        simp only [methodTrigger, Option.some.injEq, reduceCtorEq] at hmethod <;> subst hmethod <;>
        cases state <;>
        simp_all [State.answering.eq_def, stateSent.eq_def, SipMessage.isInviteOrUpdate]
  | rpr hsdp hfailure _ hinvite _ =>
      generalize s.state = state at *
      cases state <;> simp_all [State.answering.eq_def, stateSent.eq_def]
  | success hsdp hfailure _ hinvite _ _ =>
      generalize s.state = state at *
      cases state <;> simp_all [State.answering.eq_def, stateSent.eq_def]

theorem received_settled (msg : SipMessage) (isCallEstablished : Bool)
    (hpreview : s.previewMode = false) (hstate : s.state.settled) :
    (s.updateState msg .received isCallEstablished false).1.state =
        (if s.takesOffer msg then s.state.offerTaken else s.state) ∧
      (s.takesOffer msg → (s.updateState msg .received isCallEstablished false).2 = true) := by
  obtain ⟨result, hspec, -, hnext, haccepted⟩ := updateState_received msg isCallEstablished hpreview
  rw [hnext, haccepted]
  cases hspec with
  | ignored _ hsdp =>
      have htakes : s.takesOffer msg = false := by
        rcases hsdp with hsdp | ⟨hestablished, hsuccess, hmethod, hflag⟩
        · simp [takesOffer, hsdp]
        · simp only at hestablished hflag
          simp [takesOffer, hestablished, hsuccess, hmethod, hflag]
      simp [htakes]
  | failure hfailure hsdp =>
      have htakes : s.takesOffer msg = false := by simp [takesOffer, hsdp]
      generalize s.state = state at *
      cases state <;> simp_all [State.settled.eq_def, stateReceived.eq_def]
  | @request trigger hsdp hfailure hrequest hmethod =>
      have htakes : s.takesOffer msg = !msg.isAck := by
        simp [takesOffer, hsdp, SipMessage.isSuccess, hrequest]
      have hnot : trigger ≠ .successResp := by
        rintro rfl
        cases hkind : msg.method <;> rw [hkind] at hmethod <;> exact absurd hmethod (by decide)
      rw [htakes]
      generalize s.state = state at *
      cases hkind : msg.method <;> rw [hkind] at hmethod <;>
        simp only [methodTrigger, Option.some.injEq, reduceCtorEq] at hmethod <;> subst hmethod <;>
        cases state <;>
        simp_all [State.settled.eq_def, stateReceived.eq_def, State.offerTaken.eq_def, SipMessage.isAck]
  | rpr hsdp hfailure hack _ hsuccess =>
      have htakes : s.takesOffer msg := by simp [takesOffer, hsdp, hack, hsuccess]
      generalize s.state = state at *
      cases state <;> simp_all [State.settled.eq_def, stateReceived.eq_def, State.offerTaken.eq_def]
  | success hsdp hfailure hack _ hsuccess hflag =>
      by_cases hstray : msg.method = .update ∧ s.state = .established
      · have htakes : s.takesOffer msg = false := by
          simp [takesOffer, hstray.1, hstray.2, hsuccess]
        simp [htakes, hstray.1, hstray.2, stateReceived.eq_def]
      · have htakes : s.takesOffer msg := by
          simp only at hflag
          simp only [takesOffer, hsdp, hack, hsuccess]
          simp_all
          tauto
        generalize s.state = state at *
        cases state <;> simp_all [State.settled.eq_def, stateReceived.eq_def, State.offerTaken.eq_def]

/-- With an offer of the endpoint pending, a failure response refuses it, a body
answers it and an offer in a request is rejected. -/
theorem received_offering (msg : SipMessage) (isCallEstablished : Bool)
    (hpreview : s.previewMode = false) (hstate : s.state.offering)
    (hchallenge : msg.isChallenge = false) :
    (s.updateState msg .received isCallEstablished false).1.state =
        (if msg.isFailure then s.state.offerRefused
        else if msg.carriesSdp ∧ msg.isInviteOrUpdate = false then .established
        else s.state) ∧
      (msg.carriesSdp → msg.isInviteOrUpdate →
        (s.updateState msg .received isCallEstablished false).2 = false) := by
  obtain ⟨result, hspec, -, hnext, haccepted⟩ := updateState_received msg isCallEstablished hpreview
  rw [hnext, haccepted]
  have hnot : ¬s.state = .established := by
    intro h
    rw [h] at hstate
    exact absurd hstate (by decide)
  cases hspec with
  | ignored hfailure hsdp =>
      have hfailure' : msg.isFailure = false := hfailure.resolve_right fun h => by
        rw [hchallenge] at h
        exact absurd h.2 Bool.false_ne_true
      have hsdp' : msg.carriesSdp = false := hsdp.resolve_right fun h => hnot h.1
      simp [hfailure', hsdp']
  | failure hfailure hsdp =>
      generalize s.state = state at *
      cases state <;> simp_all [State.offering.eq_def, stateReceived.eq_def, State.offerRefused.eq_def]
  | @request trigger hsdp hfailure hrequest hmethod =>
      generalize s.state = state at *
      cases hkind : msg.method <;> rw [hkind] at hmethod <;>
        simp only [methodTrigger, Option.some.injEq, reduceCtorEq] at hmethod <;> subst hmethod <;>
        cases state <;>
        simp_all [State.offering.eq_def, stateReceived.eq_def, SipMessage.isInviteOrUpdate]
  | rpr hsdp hfailure _ hinvite _ =>
      generalize s.state = state at *
      cases state <;> simp_all [State.offering.eq_def, stateReceived.eq_def]
  | success hsdp hfailure _ hinvite _ _ =>
      generalize s.state = state at *
      cases state <;> simp_all [State.offering.eq_def, stateReceived.eq_def]

theorem received_answering (msg : SipMessage) (isCallEstablished : Bool)
    (hpreview : s.previewMode = false) (hstate : s.state.answering) :
    (s.updateState msg .received isCallEstablished false).1.state = s.state := by
  obtain ⟨result, -, -, hnext, -⟩ := updateState_received msg isCallEstablished hpreview
  rw [hnext]
  obtain ⟨s', _ | trigger⟩ := result
  · rfl
  · generalize s.state = state at *
    cases state <;> cases trigger <;> simp_all [State.answering.eq_def, stateReceived.eq_def]

end UpdateState

end SdpOaState

end ImsStack.OfferAnswer
