import ImsStack.OfferAnswer.HandleOfferAnswer
import Mathlib.Tactic.SplitIfs

/-!
Messages whose SDP body does not parse: when they leave `SdpOaState` as if they had
not arrived.
-/

namespace ImsStack.OfferAnswer.MalformedSdp

open Platform.AString Sdp SdpOaState

variable {P : Type}
  (handleSdp : SdpOaState P → SipMessage → SdpParser → SdpOaState P × OfferAnswerResult)
  (isCallEstablished allowOaForNonRpr : Bool)

/-- `UpdateState` of a message received, and then `HandleOfferAnswer`. -/
def receive (s : SdpOaState P) (msg : SipMessage) : SdpOaState P :=
  ((s.updateState msg .received isCallEstablished allowOaForNonRpr).1.handleOfferAnswer
    handleSdp msg).1

/-- The SDP body of the message is not accepted by the parser. -/
def Malformed (msg : SipMessage) : Prop :=
  ∃ sdp, msg.sdpBodyPart = some sdp ∧ SdpParser.decode sdp = none

/-- The trigger that a message stands for by itself. -/
def trigger (msg : SipMessage) : Option Trigger :=
  match methodTrigger msg.method, msg.statusCode with
  | none, _ => none
  | some method, none => some method
  | some _, some code =>
    if code = 100 then none
    else if isProvisional code then some (if msg.messageRpr then .rpr else .provisionalResp)
    else if isFinalSuccess code then some .successResp
    else some .failureResp

/-- The trigger of a provisional response. -/
def isProvisionalTrigger (t : Trigger) : Bool := decide (t = .rpr ∨ t = .provisionalResp)

/-- The response completes the INVITE transaction whose provisional response had an SDP body. -/
def endsInvite (s : SdpOaState P) (msg : SipMessage) (t : Trigger) : Bool :=
  s.provisionalRespWithSdp && msg.method = .invite &&
    (t = .failureResp || (t = .successResp && s.state = .established))

/-- The message is left out of the exchange in this state. -/
def leftOut (s : SdpOaState P) (msg : SipMessage) (t : Trigger) : Bool :=
  let provisional := t = .provisionalResp &&
    (!(allowOaForNonRpr || s.previewMode) ||
      (s.state = .established && s.provisionalRespWithSdp && !s.previewMode))
  let resubmitted := t = .failureResp && msg.method ≠ .invite &&
    (msg.statusCode = some 401 || msg.statusCode = some 407) &&
      !(isCallEstablished && msg.method = .update)
  let strayUpdate := msg.method = .update && stateReceived s.state t = some .offerChangeReceived &&
    (t = .successResp || s.previewMode)
  provisional || resubmitted || (stateReceived s.state t).isNone || strayUpdate

/-- The state before a malformed message that takes part in the exchange is the one after it. -/
def ignoresTakingPart (s : SdpOaState P) (t : Trigger) : Bool :=
  let flagKept := !isProvisionalTrigger t || s.provisionalRespWithSdp
  let inPreview := s.previewMode && (isProvisionalTrigger t || t = .successResp)
  match s.state with
  | .idle =>
    if t = .failureResp then !s.stateChanged
    else !s.stateChanged && s.mode = .idle && s.oldState = .idle && flagKept
  | .offerSent => t ≠ .failureResp && s.stateChanged && s.oldState = .idle && flagKept
  | .offerChangeSent => s.stateChanged && s.oldState = .established && flagKept
  | .offerReceived => !s.stateChanged && s.mode = .answerer
  | .offerChangeReceived =>
    if inPreview then s.stateChanged && s.oldState ≠ .established && flagKept
    else !s.stateChanged && s.mode = .answerer
  | .established =>
    if t = .ack ∨ t = .failureResp then !s.stateChanged
    else if inPreview then
      s.stateChanged && s.oldState ≠ .offerSent && s.oldState ≠ .offerChangeSent && flagKept
    else !s.stateChanged && s.mode = .idle && s.oldState = .established && flagKept

/-- When a malformed message is ignored altogether. -/
def ignoresMalformed (s : SdpOaState P) (msg : SipMessage) : Bool :=
  match trigger msg with
  | none => !s.stateChanged
  | some t =>
    !endsInvite s msg t &&
      if leftOut isCallEstablished allowOaForNonRpr s msg t then !s.stateChanged
      else ignoresTakingPart s t

theorem trigger_ne {msg : SipMessage} {t : Trigger} (ht : trigger msg = some t) :
    t ≠ .cancel ∧ t ≠ .bye := by
  have hmethod : ∀ m, methodTrigger m ≠ some .cancel ∧ methodTrigger m ≠ some .bye := by
    intro m
    cases m <;> decide
  have hm := hmethod msg.method
  unfold trigger at ht
  grind

section MessageTrigger

variable {isCallEstablished allowOaForNonRpr} {s : SdpOaState P} {msg : SipMessage} {t : Trigger}
  {code : Nat}

theorem messageTrigger_of_none (h : trigger msg = none) :
    s.messageTrigger msg .received isCallEstablished allowOaForNonRpr = (s, none) := by
  unfold trigger at h
  unfold messageTrigger
  cases hmethod : methodTrigger msg.method with
  | none => rfl
  | some method =>
    cases hcode : msg.statusCode with
    | none => simp [hmethod, hcode] at h
    | some code =>
      have h100 : code = 100 := by
        simp only [hmethod, hcode] at h
        grind
      simp [responseTrigger, h100]

theorem messageTrigger_request (hbody : msg.sdpBodyPart ≠ none) (hcode : msg.statusCode = none)
    (ht : trigger msg = some t) :
    s.messageTrigger msg .received isCallEstablished allowOaForNonRpr = (s, some t) := by
  unfold trigger at ht
  unfold messageTrigger
  cases hmethod : methodTrigger msg.method with
  | none => simp [hmethod] at ht
  | some method =>
    obtain rfl : method = t := by simpa [hmethod, hcode] using ht
    have hkind : method ≠ .provisionalResp ∧ method ≠ .failureResp := by
      unfold methodTrigger at hmethod
      split at hmethod <;> simp at hmethod <;> subst hmethod <;> decide
    simp [hcode, hbody, hkind]

theorem messageTrigger_provisional (isCallEstablished allowOaForNonRpr : Bool)
    (hbody : msg.sdpBodyPart ≠ none)
    (hmethod : methodTrigger msg.method ≠ none) (hcode : msg.statusCode = some code)
    (h100 : code ≠ 100) (hprovisional : isProvisional code = true) :
    s.messageTrigger msg .received isCallEstablished allowOaForNonRpr =
      if s.state = .established ∧ s.provisionalRespWithSdp ∧ !msg.messageRpr ∧ !s.previewMode then
        (s, none)
      else if msg.messageRpr = false ∧ (allowOaForNonRpr || s.previewMode) = false then (s, none)
      else (s, some (if msg.messageRpr then .rpr else .provisionalResp)) := by
  obtain ⟨method, hmethod⟩ := Option.ne_none_iff_exists'.mp hmethod
  unfold messageTrigger responseTrigger
  rw [hmethod, hcode]
  simp only [if_neg h100, if_pos hprovisional]
  by_cases hignored :
      s.state = .established ∧ s.provisionalRespWithSdp ∧ !msg.messageRpr ∧ !s.previewMode
  · simp only [if_pos hignored]
  · simp only [if_neg hignored]
    cases hrpr : msg.messageRpr <;> simp [hbody]

theorem messageTrigger_success (isCallEstablished allowOaForNonRpr : Bool)
    (hbody : msg.sdpBodyPart ≠ none)
    (hmethod : methodTrigger msg.method ≠ none) (hcode : msg.statusCode = some code)
    (h100 : code ≠ 100) (hprovisional : isProvisional code = false)
    (hsuccess : isFinalSuccess code = true) :
    s.messageTrigger msg .received isCallEstablished allowOaForNonRpr =
      if s.state = .established ∧ s.provisionalRespWithSdp ∧ msg.method = .invite then
        ({ s with provisionalRespWithSdp := false },
          if allowOaForNonRpr then some .successResp else none)
      else (s, some .successResp) := by
  obtain ⟨method, hmethod⟩ := Option.ne_none_iff_exists'.mp hmethod
  unfold messageTrigger responseTrigger
  rw [hmethod, hcode]
  simp only [if_neg h100, hprovisional, hsuccess, if_true]
  by_cases hends : s.state = .established ∧ s.provisionalRespWithSdp ∧ msg.method = .invite
  · simp only [if_pos hends]
    cases allowOaForNonRpr <;> simp [hbody]
  · simp only [if_neg hends]
    simp [hbody]

theorem messageTrigger_failure (isCallEstablished allowOaForNonRpr : Bool)
    (hbody : msg.sdpBodyPart ≠ none)
    (hmethod : methodTrigger msg.method ≠ none) (hcode : msg.statusCode = some code)
    (h100 : code ≠ 100) (hprovisional : isProvisional code = false)
    (hsuccess : isFinalSuccess code = false) :
    s.messageTrigger msg .received isCallEstablished allowOaForNonRpr =
      (if s.provisionalRespWithSdp ∧ msg.method = .invite then
        { s with provisionalRespWithSdp := false } else s,
       if msg.method ≠ .invite ∧ (msg.statusCode = some 401 ∨ msg.statusCode = some 407) ∧
          !(isCallEstablished && msg.method = .update) then none else some .failureResp) := by
  obtain ⟨method, hmethod⟩ := Option.ne_none_iff_exists'.mp hmethod
  unfold messageTrigger responseTrigger
  rw [hmethod, hcode]
  simp only [if_neg h100, hprovisional, hsuccess, Bool.false_eq_true, if_false, reduceCtorEq,
    false_and, hbody, true_and, ne_eq, not_true_eq_false, and_false, Option.some.injEq]
  split_ifs <;> rfl

end MessageTrigger

section Settle

variable {handleSdp} {isCallEstablished allowOaForNonRpr} {s s' : SdpOaState P} {msg : SipMessage}
  {t : Trigger}

/-- What becomes of the state when a malformed message is taken for a trigger. -/
def settle (s : SdpOaState P) (msg : SipMessage) (t : Trigger) : SdpOaState P :=
  let s := (s.updateStateReceived msg t).1
  if s.stateChanged then s.rollbackForMalformedSdp else s

theorem handleOfferAnswer_malformed (h : Malformed msg) :
    (s.handleOfferAnswer handleSdp msg).1 =
      if s.stateChanged then s.rollbackForMalformedSdp else s := by
  obtain ⟨sdp, hbody, hdecode⟩ := h
  unfold handleOfferAnswer
  cases hchanged : s.stateChanged <;> simp [hbody, hdecode]

theorem receive_of_some (h : Malformed msg)
    (ht : ({ s with stateChanged := false } : SdpOaState P).messageTrigger msg .received
      isCallEstablished allowOaForNonRpr = (s', some t)) :
    receive handleSdp isCallEstablished allowOaForNonRpr s msg = settle s' msg t := by
  unfold receive updateState
  simp only [reduceCtorEq, if_false, ht]
  exact handleOfferAnswer_malformed h

theorem receive_of_none (h : Malformed msg)
    (ht : ({ s with stateChanged := false } : SdpOaState P).messageTrigger msg .received
      isCallEstablished allowOaForNonRpr = (s', none)) (hs' : s'.stateChanged = false) :
    receive handleSdp isCallEstablished allowOaForNonRpr s msg = s' := by
  unfold receive updateState
  simp only [reduceCtorEq, if_false, ht]
  rw [handleOfferAnswer_malformed h]
  simp [hs']

theorem settle_eq_iff (hbody : msg.sdpBodyPart.isSome = true) (ht : trigger msg = some t)
    (hnot : leftOut isCallEstablished allowOaForNonRpr s msg t = false) :
    settle { s with stateChanged := false } msg t = s ↔ ignoresTakingPart s t = true := by
  obtain ⟨state, oldState, mode, previewModeSupported, previewMode, stateChanged, offerProgress,
    provisionalRespWithSdp, sdpVersionCheck, alwaysIncreaseSdpVersion, lastOfferMade, currentView,
    peerView, proposalView, refusedView, capabilities⟩ := s
  have hkind := trigger_ne ht
  cases state <;> cases t
  all_goals
    simp only [settle, updateStateReceived, stateReceived, noteStateChange,
      rollbackForMalformedSdp, leftOut, ignoresTakingPart, isProvisionalTrigger, hbody]
      at hnot hkind ⊢
  all_goals grind

theorem settle_of_leftOut (hs : s.stateChanged = false)
    (hnot : (stateReceived s.state t).isNone ∨
      (msg.method = .update ∧ stateReceived s.state t = some .offerChangeReceived ∧
        (t = .successResp ∨ s.previewMode))) :
    settle s msg t = s := by
  have hupdate : (s.updateStateReceived msg t).1 = s := by
    unfold updateStateReceived
    dsimp only
    split
    · rfl
    · next state hstate =>
      rw [hstate] at hnot
      have hstray : msg.method = .update ∧ state = .offerChangeReceived ∧
          (t = .successResp ∨ s.previewMode) := by simpa using hnot
      rw [if_pos hstray]
  unfold settle
  simp [hupdate, hs]

end Settle

section Receive

variable {handleSdp} {isCallEstablished allowOaForNonRpr} {s : SdpOaState P} {msg : SipMessage}
  {t : Trigger}

theorem stateChanged_eq_iff : ({ s with stateChanged := false } : SdpOaState P) = s ↔
    (!s.stateChanged) = true := by
  cases s
  simp

theorem settle_flag (hflag : s.provisionalRespWithSdp = false) (ht : isProvisionalTrigger t = false) :
    (settle s msg t).provisionalRespWithSdp = false := by
  have hupdate : (s.updateStateReceived msg t).1.provisionalRespWithSdp = false := by
    unfold updateStateReceived noteStateChange
    unfold isProvisionalTrigger at ht
    grind
  have hrollback : ∀ s' : SdpOaState P,
      s'.rollbackForMalformedSdp.provisionalRespWithSdp = s'.provisionalRespWithSdp := by
    intro s'
    unfold rollbackForMalformedSdp
    split
    · rfl
    · split <;> rfl
  unfold settle
  dsimp only
  split
  · rw [hrollback, hupdate]
  · exact hupdate

theorem settle_iff (hbody : msg.sdpBodyPart.isSome = true) (ht : trigger msg = some t)
    (hprovisional : ¬ (t = .provisionalResp ∧ (!(allowOaForNonRpr || s.previewMode) ∨
      (s.state = .established ∧ s.provisionalRespWithSdp ∧ !s.previewMode))))
    (hresubmitted : ¬ (t = .failureResp ∧ msg.method ≠ .invite ∧
      (msg.statusCode = some 401 ∨ msg.statusCode = some 407) ∧
        !(isCallEstablished && msg.method = .update))) :
    settle { s with stateChanged := false } msg t = s ↔
      (if leftOut isCallEstablished allowOaForNonRpr s msg t then !s.stateChanged
        else ignoresTakingPart s t) = true := by
  cases hleft : leftOut isCallEstablished allowOaForNonRpr s msg t with
  | false => exact settle_eq_iff hbody ht hleft
  | true =>
    rw [settle_of_leftOut rfl]
    · exact stateChanged_eq_iff
    · unfold leftOut at hleft
      grind

theorem ne_of_flag {s' : SdpOaState P} (hflag : s.provisionalRespWithSdp = true)
    (hflag' : s'.provisionalRespWithSdp = false) : s' ≠ s := by
  rintro rfl
  rw [hflag] at hflag'
  exact Bool.noConfusion hflag'

theorem receive_request_iff (h : Malformed msg) (hcode : msg.statusCode = none)
    (ht : trigger msg = some t) :
    receive handleSdp isCallEstablished allowOaForNonRpr s msg = s ↔
      ignoresMalformed isCallEstablished allowOaForNonRpr s msg = true := by
  have hbody : msg.sdpBodyPart ≠ none := by
    obtain ⟨sdp, hsdp, -⟩ := h
    simp [hsdp]
  have hkind : t ≠ .provisionalResp ∧ t ≠ .failureResp ∧ t ≠ .successResp := by
    have hmethod : ∀ m, methodTrigger m ≠ some .provisionalResp ∧
        methodTrigger m ≠ some .failureResp ∧ methodTrigger m ≠ some .successResp := by
      intro m
      cases m <;> decide
    have hm := hmethod msg.method
    unfold trigger at ht
    grind
  have hends : endsInvite s msg t = false := by simp [endsInvite, hkind]
  rw [receive_of_some h (messageTrigger_request hbody hcode ht), ignoresMalformed, ht]
  simp only [hends, Bool.not_false, Bool.true_and]
  apply settle_iff (Option.isSome_iff_ne_none.mpr hbody) ht
  · exact fun hprovisional => hkind.1 hprovisional.1
  · exact fun hresubmitted => hkind.2.1 hresubmitted.1

theorem receive_provisional_iff {code : Nat} (h : Malformed msg) (ht : trigger msg = some t)
    (hmethod : methodTrigger msg.method ≠ none) (hcode : msg.statusCode = some code)
    (h100 : code ≠ 100) (hprovisional : isProvisional code = true)
    (hkind : t = if msg.messageRpr then .rpr else .provisionalResp) :
    receive handleSdp isCallEstablished allowOaForNonRpr s msg = s ↔
      ignoresMalformed isCallEstablished allowOaForNonRpr s msg = true := by
  have hbody : msg.sdpBodyPart ≠ none := by
    obtain ⟨sdp, hsdp, -⟩ := h
    simp [hsdp]
  have htrigger := messageTrigger_provisional (s := { s with stateChanged := false })
    isCallEstablished allowOaForNonRpr hbody hmethod
    hcode h100 hprovisional
  have hends : endsInvite s msg t = false := by
    rw [hkind]
    cases msg.messageRpr <;> simp [endsInvite]
  rw [ignoresMalformed, ht]
  simp only [hends, Bool.not_false, Bool.true_and]
  dsimp only at htrigger
  by_cases hignored : s.state = .established ∧ s.provisionalRespWithSdp ∧ !msg.messageRpr ∧
      !s.previewMode
  · have hleft : leftOut isCallEstablished allowOaForNonRpr s msg t = true := by
      unfold leftOut
      grind
    rw [if_pos hignored] at htrigger
    rw [receive_of_none h htrigger rfl, hleft]
    exact stateChanged_eq_iff
  · rw [if_neg hignored] at htrigger
    by_cases hnon : msg.messageRpr = false ∧ (allowOaForNonRpr || s.previewMode) = false
    · have hleft : leftOut isCallEstablished allowOaForNonRpr s msg t = true := by
        unfold leftOut
        grind
      rw [if_pos hnon] at htrigger
      rw [receive_of_none h htrigger rfl, hleft]
      exact stateChanged_eq_iff
    · rw [if_neg hnon, ← hkind] at htrigger
      rw [receive_of_some h htrigger]
      apply settle_iff (Option.isSome_iff_ne_none.mpr hbody) ht
      · grind
      · grind

theorem receive_success_iff {code : Nat} (h : Malformed msg) (ht : trigger msg = some .successResp)
    (hmethod : methodTrigger msg.method ≠ none) (hcode : msg.statusCode = some code)
    (h100 : code ≠ 100) (hprovisional : isProvisional code = false)
    (hsuccess : isFinalSuccess code = true) :
    receive handleSdp isCallEstablished allowOaForNonRpr s msg = s ↔
      ignoresMalformed isCallEstablished allowOaForNonRpr s msg = true := by
  have hbody : msg.sdpBodyPart ≠ none := by
    obtain ⟨sdp, hsdp, -⟩ := h
    simp [hsdp]
  have htrigger := messageTrigger_success (s := { s with stateChanged := false })
    isCallEstablished allowOaForNonRpr hbody hmethod
    hcode h100 hprovisional hsuccess
  rw [ignoresMalformed, ht]
  dsimp only at htrigger ⊢
  by_cases hends : s.state = .established ∧ s.provisionalRespWithSdp ∧ msg.method = .invite
  · have hflag : s.provisionalRespWithSdp = true := hends.2.1
    have hne : endsInvite s msg .successResp = true := by simp [endsInvite, hends]
    rw [if_pos hends] at htrigger
    rw [hne]
    simp only [Bool.not_true, Bool.false_and, Bool.false_eq_true, iff_false]
    cases allowOaForNonRpr with
    | false =>
      rw [receive_of_none h htrigger rfl]
      exact ne_of_flag hflag rfl
    | true =>
      rw [receive_of_some h htrigger]
      exact ne_of_flag hflag (settle_flag rfl rfl)
  · have hne : endsInvite s msg .successResp = false := by
      unfold endsInvite
      grind
    rw [if_neg hends] at htrigger
    rw [hne, receive_of_some h htrigger]
    simp only [Bool.not_false, Bool.true_and]
    apply settle_iff (Option.isSome_iff_ne_none.mpr hbody) ht
    · exact fun h => absurd h.1 (by decide)
    · exact fun h => absurd h.1 (by decide)

theorem receive_failure_iff {code : Nat} (h : Malformed msg) (ht : trigger msg = some .failureResp)
    (hmethod : methodTrigger msg.method ≠ none) (hcode : msg.statusCode = some code)
    (h100 : code ≠ 100) (hprovisional : isProvisional code = false)
    (hsuccess : isFinalSuccess code = false) :
    receive handleSdp isCallEstablished allowOaForNonRpr s msg = s ↔
      ignoresMalformed isCallEstablished allowOaForNonRpr s msg = true := by
  have hbody : msg.sdpBodyPart ≠ none := by
    obtain ⟨sdp, hsdp, -⟩ := h
    simp [hsdp]
  have htrigger := messageTrigger_failure (s := { s with stateChanged := false })
    isCallEstablished allowOaForNonRpr hbody hmethod
    hcode h100 hprovisional hsuccess
  rw [ignoresMalformed, ht]
  dsimp only at htrigger ⊢
  by_cases hends : s.provisionalRespWithSdp ∧ msg.method = .invite
  · have hflag : s.provisionalRespWithSdp = true := hends.1
    have hne : endsInvite s msg .failureResp = true := by simp [endsInvite, hends]
    rw [if_pos hends, if_neg fun h => h.1 hends.2] at htrigger
    rw [hne, receive_of_some h htrigger]
    simp only [Bool.not_true, Bool.false_and, Bool.false_eq_true, iff_false]
    exact ne_of_flag hflag (settle_flag rfl rfl)
  · have hne : endsInvite s msg .failureResp = false := by
      unfold endsInvite
      grind
    rw [if_neg hends] at htrigger
    rw [hne]
    simp only [Bool.not_false, Bool.true_and]
    by_cases hresubmitted : msg.method ≠ .invite ∧
        (msg.statusCode = some 401 ∨ msg.statusCode = some 407) ∧
          !(isCallEstablished && msg.method = .update)
    · have hleft : leftOut isCallEstablished allowOaForNonRpr s msg .failureResp = true := by
        unfold leftOut
        grind
      rw [if_pos hresubmitted] at htrigger
      rw [receive_of_none h htrigger rfl, hleft]
      exact stateChanged_eq_iff
    · rw [if_neg hresubmitted] at htrigger
      rw [receive_of_some h htrigger]
      apply settle_iff (Option.isSome_iff_ne_none.mpr hbody) ht
      · exact fun h => absurd h.1 (by decide)
      · exact fun h => hresubmitted h.2

/-- `UpdateState` and `HandleOfferAnswer` of a malformed message leave the state as it was if and
only if the message is ignored. -/
theorem receive_malformed_iff (h : Malformed msg) :
    receive handleSdp isCallEstablished allowOaForNonRpr s msg = s ↔
      ignoresMalformed isCallEstablished allowOaForNonRpr s msg = true := by
  cases ht : trigger msg with
  | none =>
    rw [receive_of_none h (messageTrigger_of_none ht) rfl, ignoresMalformed, ht]
    exact stateChanged_eq_iff
  | some t =>
    cases hcode : msg.statusCode with
    | none => exact receive_request_iff h hcode ht
    | some code =>
      cases hmethod : methodTrigger msg.method with
      | none => simp [trigger, hmethod] at ht
      | some method =>
        have hmethodSome : methodTrigger msg.method ≠ none := by simp [hmethod]
        have hkind := ht
        simp only [trigger, hmethod, hcode] at hkind
        split at hkind
        · exact absurd hkind (by simp)
        · next h100 =>
          split at hkind
          · next hprovisional =>
            exact receive_provisional_iff h ht hmethodSome hcode h100 hprovisional
              (Option.some.inj hkind).symm
          · next hprovisional =>
            have hprovisional := Bool.eq_false_iff.mpr hprovisional
            split at hkind
            · next hsuccess =>
              obtain rfl := Option.some.inj hkind
              exact receive_success_iff h ht hmethodSome hcode h100 hprovisional hsuccess
            · next hsuccess =>
              obtain rfl := Option.some.inj hkind
              exact receive_failure_iff h ht hmethodSome hcode h100 hprovisional
                (Bool.eq_false_iff.mpr hsuccess)

end Receive

section Runs

/-- What happens to a session: something of its own, or a malformed message that is received. -/
inductive Event (P : Type) where
  | other (step : SdpOaState P → SdpOaState P)
  | malformed (msg : SipMessage) (isCallEstablished allowOaForNonRpr : Bool) (h : Malformed msg)

def Event.apply (s : SdpOaState P) : Event P → SdpOaState P
  | .other step => step s
  | .malformed msg isCallEstablished allowOaForNonRpr _ =>
    receive handleSdp isCallEstablished allowOaForNonRpr s msg

def run (s : SdpOaState P) (events : List (Event P)) : SdpOaState P :=
  events.foldl (Event.apply handleSdp) s

def Event.isMalformed : Event P → Bool
  | .other _ => false
  | .malformed .. => true

/-- Each malformed message of the run is ignored in the state in which it arrives. -/
def AllIgnored (s : SdpOaState P) : List (Event P) → Prop
  | [] => True
  | event :: events =>
    (match event with
      | .other _ => True
      | .malformed msg isCallEstablished allowOaForNonRpr _ =>
        ignoresMalformed isCallEstablished allowOaForNonRpr s msg = true) ∧
      AllIgnored (event.apply handleSdp s) events

/-- The state before a malformed message is the state after it if and only if the message is
ignored; a run whose malformed messages are all ignored goes as if they had never arrived. -/
theorem malformed_ignored :
    (∀ (s : SdpOaState P) (msg : SipMessage), Malformed msg →
      (receive handleSdp isCallEstablished allowOaForNonRpr s msg = s ↔
        ignoresMalformed isCallEstablished allowOaForNonRpr s msg = true)) ∧
    ∀ (events : List (Event P)) (s : SdpOaState P), AllIgnored handleSdp s events →
      run handleSdp s events = run handleSdp s (events.filter fun event => !event.isMalformed) := by
  refine ⟨fun s msg h => receive_malformed_iff h, ?_⟩
  intro events
  induction events with
  | nil => exact fun s _ => rfl
  | cons event events ih =>
    intro s hignored
    have hrest := ih _ hignored.2
    cases event with
    | other step => exact hrest
    | malformed msg isCallEstablished allowOaForNonRpr h =>
      have hs : receive handleSdp isCallEstablished allowOaForNonRpr s msg = s :=
        (receive_malformed_iff h).mpr hignored.1
      rw [Event.apply, hs] at hrest
      have hrun : run handleSdp s (.malformed msg isCallEstablished allowOaForNonRpr h :: events) =
          run handleSdp s events := by
        rw [run, List.foldl_cons, Event.apply, hs]
        rfl
      rw [hrun, hrest]
      rfl

/-- An INVITE with an offer that does not parse, in the initial state. -/
theorem malformed_ignored_invite :
    receive (fun s _ _ => (s, .failure)) false false ({ capabilities := () } : SdpOaState Unit)
      { method := .invite, sdpBodyPart := some "v=x".toList } = { capabilities := () } :=
  ((malformed_ignored (fun s _ _ => (s, .failure)) false false).1 _ _
    ⟨"v=x".toList, rfl, by decide⟩).mpr (by decide)

/-- The state after messages sent and received. -/
def reached (messages : List (SipMessage × MessageFlow)) : SdpOaState Unit :=
  messages.foldl (fun s message => (s.updateState message.1 message.2 false false).1)
    { capabilities := () }

/-- The flag for a provisional response with an SDP body stays set after a malformed answer. -/
theorem not_malformed_ignored :
    ¬ ∀ (messages : List (SipMessage × MessageFlow)) (msg : SipMessage), Malformed msg →
      receive (fun s _ _ => (s, .failure)) false false (reached messages) msg =
        reached messages := by
  intro h
  have hmalformed : Malformed
      { method := .invite, statusCode := some 183, messageRpr := true,
        sdpBodyPart := some "v=x".toList } := ⟨"v=x".toList, rfl, by decide⟩
  have hsame := h [({ method := .invite, sdpBodyPart := some "v=0".toList }, .sent)] _ hmalformed
  exact absurd (congrArg SdpOaState.provisionalRespWithSdp hsame) (by decide)

end Runs

end ImsStack.OfferAnswer.MalformedSdp
