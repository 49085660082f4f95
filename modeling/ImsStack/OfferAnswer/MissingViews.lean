import ImsStack.OfferAnswer.SessionViews

/-!
Which operations of `SdpOaState` dereference a view that is not there, over whole runs.  The
current view is there once an exchange has been completed, and stays.
-/

namespace ImsStack.OfferAnswer.SdpOaState

open Platform.AString Sdp

variable {P : Type}

inductive Operation (P : Type) where
  | createCapabilities (capabilities : P) (created : Bool)
  | createProposalView
  | initiateOffer (nType : OfferType)
  | updateState (msg : SipMessage) (flow : MessageFlow) (isCallEstablished allowOaForNonRpr : Bool)
  | handleOfferAnswer (msg : SipMessage)
  | completeExchange
  | restoreState
  | abortProposal
  | increaseSessionVersion
  | enablePreviewModeSupport
  | updateStateOnTransactionCompleted (msg : SipMessage)

/-- What an operation leaves, unless it dereferences a view that is not there. -/
def next (ops : SessionParameterOps P) (s : SdpOaState P) : Operation P → Option (SdpOaState P)
  | .createCapabilities capabilities created => some (s.createCapabilities capabilities created).1
  | .createProposalView => (s.createProposalView ops).map Prod.fst
  | .initiateOffer nType => (s.initiateOffer ops nType).map Prod.fst
  | .updateState msg flow isCallEstablished allowOaForNonRpr =>
    some (s.updateState msg flow isCallEstablished allowOaForNonRpr).1
  | .handleOfferAnswer msg => (s.handleMessage ops msg).map Prod.fst
  | .completeExchange => some (s.completeExchange ops)
  | .restoreState => some s.restoreState
  | .abortProposal => some s.abortProposal
  | .increaseSessionVersion => s.increaseSessionVersion ops
  | .enablePreviewModeSupport => some { s with previewModeSupported := true }
  | .updateStateOnTransactionCompleted msg => some (s.updateStateOnTransactionCompleted msg)

def run (ops : SessionParameterOps P) (s : SdpOaState P) :
    List (Operation P) → Option (SdpOaState P)
  | [] => some s
  | operation :: rest => (s.next ops operation).bind fun s => s.run ops rest

/-- The operation completes an exchange: it makes the proposal the current view. -/
def completes (s : SdpOaState P) : Operation P → Bool
  | .completeExchange => s.state = .established && s.proposalView.isSome
  | _ => false

/-- An offer can be made of the session as it is. -/
def offersChange (s : SdpOaState P) : Prop := s.state = .idle ∨ s.state = .established

/-- What a message with session parameters asks for, when no exchange has been completed: an answer
is to an offer that has been made, and an offer to change the session has media and another session
version, or there was no offer before. -/
def AllowsParsed (ops : SessionParameterOps P) (s : SdpOaState P) (param : P) : Prop :=
  match s.state with
  | .established => (if s.mode = .offerer then s.proposalView else s.lastOfferMade).isSome
  | .offerChangeReceived =>
    ∀ last ∈ s.lastOfferMade, ops.getMediaCount param ≠ 0 ∧
      ¬(s.sdpVersionCheck ∧ ops.isSameVersion last param)
  | _ => True

/-- What has to hold when an operation is called; `completed` says that an exchange has been
completed before. -/
def Allows (ops : SessionParameterOps P) (completed : Prop) (s : SdpOaState P) :
    Operation P → Prop
  | .createProposalView => s.offersChange → s.proposalView = none → completed
  | .initiateOffer nType => nType = .refresh ∨ nType = .change → s.offersChange → completed
  | .handleOfferAnswer msg => ∀ sdp ∈ s.bodyToHandle msg, ∀ parser ∈ SdpParser.decode sdp,
      ∀ param ∈ ops.create parser, completed ∨ s.AllowsParsed ops
        (ops.updateRemoteVersion param (ops.getSessionVersion param))
  | .increaseSessionVersion => completed
  | _ => True

section operations

variable {ops : SessionParameterOps P} {s : SdpOaState P}

theorem isSome_increaseSessionVersion :
    (s.increaseSessionVersion ops).isSome ↔ s.currentView.isSome := by
  unfold increaseSessionVersion
  cases s.currentView <;> simp

theorem isSome_offerOf {nType : OfferType} :
    (s.offerOf ops nType).isSome ↔
      (nType = .refresh ∨ nType = .change → s.currentView.isSome) := by
  have hchange : (s.increaseSessionVersion ops).isSome ↔ s.currentView.isSome :=
    isSome_increaseSessionVersion
  cases nType with
  | invalid => simp [offerOf]
  | new => simp [offerOf]
  | refresh => cases hview : s.currentView <;> simp [offerOf, hview]
  | change =>
    cases hview : s.currentView with
    | none => simp [offerOf, hview]
    | some current =>
      rw [hview] at hchange
      obtain ⟨increased, hincreased⟩ := Option.isSome_iff_exists.mp (hchange.mpr rfl)
      cases hflag : s.alwaysIncreaseSdpVersion <;> simp [offerOf, hview, hflag, hincreased]

theorem isSome_initiateOffer {nType : OfferType} :
    (s.initiateOffer ops nType).isSome ↔
      (nType = .refresh ∨ nType = .change → s.offersChange → s.currentView.isSome) := by
  unfold initiateOffer offersChange
  split
  · next hinvalid => simp [hinvalid]
  · split
    · next hstate =>
      simp only [Option.isSome_some, true_iff]
      rintro - (h | h)
      · exact absurd h hstate.1
      · exact absurd h hstate.2
    · next hstate =>
      have hoffers : s.state = .idle ∨ s.state = .established := by
        simpa [or_iff_not_imp_left] using hstate
      have hoffer := @isSome_offerOf P ops s nType
      cases hof : s.offerOf ops nType with
      | none => simp_all
      | some offer => simp_all

theorem isSome_createProposalView :
    (s.createProposalView ops).isSome ↔
      (s.offersChange → s.proposalView = none → s.currentView.isSome) := by
  have hinitiate := @isSome_initiateOffer P ops s .change
  unfold createProposalView
  split
  · next hstate =>
    simp only [Option.isSome_some, true_iff]
    rintro (h | h)
    · exact absurd h hstate.1
    · exact absurd h hstate.2.2.1
  · split
    · next hproposal =>
      simp only [Option.isSome_some, true_iff]
      intro _ hnone
      simp [hnone] at hproposal
    · next hproposal =>
      have hnone : s.proposalView = none := by simpa using hproposal
      cases hinitiated : s.initiateOffer ops .change with
      | none => simp_all
      | some initiated => simp_all

theorem isSome_viewAt_currentCapabilities :
    (s.viewAt s.currentCapabilities).isSome ↔
      s.currentView.isSome ∨ s.state = .offerReceived ∨
        (s.state = .established ∨ s.state = .offerChangeReceived) ∧ s.lastOfferMade.isSome := by
  have hlast : ((if s.lastOfferMade.isSome then View.lastOfferMade else View.currentView) |>
      s.viewAt).isSome ↔ s.currentView.isSome ∨ s.lastOfferMade.isSome := by
    cases hmade : s.lastOfferMade <;> simp [viewAt, hmade]
  unfold currentCapabilities
  cases hstate : s.state with
  | established => simpa using hlast
  | offerChangeReceived => simpa using hlast
  | _ => simp [viewAt]

theorem viewAt_of_offerChangeReceived {last : P} (hstate : s.state = .offerChangeReceived)
    (hlast : s.lastOfferMade = some last) : s.viewAt s.currentCapabilities = some last := by
  simp [currentCapabilities, hstate, hlast, viewAt]

/-- An answer updates the remote version of the last offer, and leaves where the offer is found. -/
theorem isSome_viewAt_of_map {f : P → P} :
    ({ s with lastOfferMade := s.lastOfferMade.map f }.viewAt
      { s with lastOfferMade := s.lastOfferMade.map f }.currentCapabilities).isSome ↔
      (s.viewAt s.currentCapabilities).isSome := by
  rw [isSome_viewAt_currentCapabilities, isSome_viewAt_currentCapabilities]
  simp

theorem isSome_handleAnswer {parser : SdpParser} {updateRemoteVersion : Bool} :
    (s.handleAnswer ops parser updateRemoteVersion).isSome ↔
      ∀ param ∈ ops.create parser, (s.viewAt s.currentCapabilities).isSome := by
  unfold handleAnswer
  cases hcreate : ops.create parser with
  | none => simp
  | some answer =>
    have hview : ∀ updated : SdpOaState P,
        (do
          let current ← updated.viewAt updated.currentCapabilities
          if ops.getMediaCount answer ≠ ops.getMediaCount current then
            return (updated, OfferAnswerResult.failure)
          else
            let processed := ops.processAnswer current answer
            return (updated.negotiated updated.currentCapabilities processed,
              processed.result) : Option (SdpOaState P × OfferAnswerResult)).isSome ↔
          (updated.viewAt updated.currentCapabilities).isSome := by
      intro updated
      cases updated.viewAt updated.currentCapabilities with
      | none => simp
      | some current => simp only [Option.bind_eq_bind, Option.bind_some]; split <;> simp
    simp only [Option.mem_some_iff, forall_eq']
    rw [hview]
    split
    · exact isSome_viewAt_of_map
    · exact Iff.rfl

theorem isSome_comparesMedia {offer : P} :
    (s.comparesMedia ops offer).isSome ↔
      (ops.getMediaCount offer = 0 → s.state = .offerChangeReceived → s.currentView.isSome) := by
  unfold comparesMedia
  split
  · next hcount => simp [hcount]
  · split
    · next hstate => simp [hstate]
    · split
      · next hcount _ hstate =>
        have hzero : ops.getMediaCount offer = 0 := by simpa using hcount
        cases s.currentView <;> simp [hzero, hstate]
      · next hstate => simp [hstate]

theorem isSome_handleSameVersion {offer : P} :
    (s.handleSameVersion ops offer).isSome ↔ s.currentView.isSome := by
  unfold handleSameVersion increaseSessionVersion
  cases hview : s.currentView with
  | none => simp
  | some current =>
    cases hprovided : ops.isLastSdpProvidedWithNegotiatedSdp current <;> simp [hview, hprovided]

theorem isSome_compared {current offer : P}
    {answered : Bool → SdpOaState P × OfferAnswerResult} :
    (do
      let withMedia ← s.comparesMedia ops offer
      if s.state = .offerChangeReceived ∧ s.sdpVersionCheck ∧ ops.isSameVersion current offer then
        s.handleSameVersion ops offer
      else return answered withMedia : Option (SdpOaState P × OfferAnswerResult)).isSome ↔
      (ops.getMediaCount offer = 0 → s.state = .offerChangeReceived → s.currentView.isSome) ∧
        (s.state = .offerChangeReceived ∧ s.sdpVersionCheck ∧ ops.isSameVersion current offer →
          s.currentView.isSome) := by
  rw [← @isSome_comparesMedia P ops s offer, ← @isSome_handleSameVersion P ops s offer]
  cases s.comparesMedia ops offer with
  | none => simp
  | some withMedia =>
    simp only [Option.bind_eq_bind, Option.bind_some, Option.isSome_some, true_and]
    split
    · next hsame => simp [hsame]
    · next hsame => simp [hsame]

/-- With a current view every offer is handled; without one, a counter offer must be compared with
the last offer alone. -/
theorem isSome_handleOffer {parser : SdpParser} :
    (s.handleOffer ops parser).isSome ↔ ∀ param ∈ ops.create parser,
      s.currentView.isSome ∨ (s.state = .offerChangeReceived → ∀ last ∈ s.lastOfferMade,
        ops.getMediaCount (ops.updateRemoteVersion param (ops.getSessionVersion param)) ≠ 0 ∧
          ¬(s.sdpVersionCheck ∧ ops.isSameVersion last
            (ops.updateRemoteVersion param (ops.getSessionVersion param)))) := by
  unfold handleOffer
  cases hcreate : ops.create parser with
  | none => simp
  | some param =>
    simp only [Option.mem_some_iff, forall_eq']
    generalize ops.updateRemoteVersion param (ops.getSessionVersion param) = offer
    cases hcurrent : s.viewAt s.currentCapabilities with
    | none =>
      have habsent := @isSome_viewAt_currentCapabilities P s
      simp only [hcurrent, Option.isSome_none, Bool.false_eq_true, false_iff, not_or] at habsent
      simp only [Option.isSome_some, true_iff]
      right
      intro hstate last hlast
      exact absurd ⟨.inr hstate, by simp [Option.mem_def.mp hlast]⟩ habsent.2.2
    | some current =>
      simp only
      split
      · next hempty =>
        simp only [Option.isSome_some, true_iff]
        right
        intro hstate
        rw [hstate] at hempty
        exact absurd hempty.1 (by decide)
      · rw [isSome_compared]
        constructor
        · rintro ⟨hcompares, hsame⟩
          rw [or_iff_not_imp_left]
          intro hnone hstate last hlast
          rw [viewAt_of_offerChangeReceived hstate hlast, Option.some.injEq] at hcurrent
          subst hcurrent
          exact ⟨fun hzero => hnone (hcompares hzero hstate),
            fun hversion => hnone (hsame ⟨hstate, hversion⟩)⟩
        · intro hviews
          have hlast : s.state = .offerChangeReceived →
              s.currentView.isSome ∨ s.lastOfferMade = some current := by
            intro hstate
            rw [or_iff_not_imp_left]
            intro hnone
            have hviewed := @isSome_viewAt_currentCapabilities P s
            simp only [hcurrent, Option.isSome_some, true_iff, hnone, hstate] at hviewed
            simp only [Bool.false_eq_true, reduceCtorEq, false_or, or_true, true_and] at hviewed
            obtain ⟨last, hmade⟩ := Option.isSome_iff_exists.mp hviewed
            rw [viewAt_of_offerChangeReceived hstate hmade] at hcurrent
            rwa [hcurrent] at hmade
          constructor
          · intro hzero hstate
            rcases hviews with hview | hviews
            · exact hview
            · rcases hlast hstate with hview | hmade
              · exact hview
              · exact absurd hzero (hviews hstate current hmade).1
          · rintro ⟨hstate, hversion⟩
            rcases hviews with hview | hviews
            · exact hview
            · rcases hlast hstate with hview | hmade
              · exact hview
              · exact absurd hversion (hviews hstate current hmade).2

theorem isSome_handleEstablished {msg : SipMessage} {parser : SdpParser}
    (hstate : s.state = .established) :
    (s.handleEstablished ops msg parser).isSome ↔ ∀ param ∈ ops.create parser,
      s.currentView.isSome ∨
        (if s.mode = .offerer then s.proposalView else s.lastOfferMade).isSome := by
  have hhandled : (s.handleEstablished ops msg parser).isSome ↔
      ((if s.mode = .offerer then
          { s with lastOfferMade := s.proposalView, proposalView := none } else s).handleAnswer
        ops parser (s.mode = .offerer || s.previewMode)).isSome := by
    unfold handleEstablished
    simp only [Option.bind_eq_bind]
    generalize (if s.mode = .offerer then
      { s with lastOfferMade := s.proposalView, proposalView := none } else s) = offered
    cases offered.handleAnswer ops parser (s.mode = .offerer || s.previewMode) with
    | none => simp
    | some handled => simp only [Option.bind_some]; split <;> simp
  rw [hhandled, isSome_handleAnswer]
  split
  · simp only [isSome_viewAt_currentCapabilities, hstate]
    simp
  · simp only [isSome_viewAt_currentCapabilities, hstate]
    simp

theorem isSome_handleParsed {msg : SipMessage} {parser : SdpParser} :
    (s.handleParsed ops msg parser).isSome ↔ ∀ param ∈ ops.create parser,
      s.currentView.isSome ∨
        s.AllowsParsed ops (ops.updateRemoteVersion param (ops.getSessionVersion param)) := by
  unfold handleParsed AllowsParsed
  cases hstate : s.state with
  | established => exact isSome_handleEstablished hstate
  | offerReceived => rw [isSome_handleOffer, hstate]; simp
  | offerChangeReceived => rw [isSome_handleOffer, hstate]; simp
  | _ => simp

theorem isSome_handleMessage {msg : SipMessage} :
    (s.handleMessage ops msg).isSome ↔
      ∀ sdp ∈ s.bodyToHandle msg, ∀ parser ∈ SdpParser.decode sdp,
        ∀ param ∈ ops.create parser, s.currentView.isSome ∨
          s.AllowsParsed ops (ops.updateRemoteVersion param (ops.getSessionVersion param)) := by
  unfold handleMessage
  cases s.bodyToHandle msg with
  | none => simp
  | some sdp =>
    cases hdecode : SdpParser.decode sdp with
    | none => simp [hdecode]
    | some parser =>
      simp only [Option.mem_some_iff, forall_eq', hdecode]
      exact isSome_handleParsed

theorem isSome_next {operation : Operation P} :
    (s.next ops operation).isSome ↔ s.Allows ops s.currentView.isSome operation := by
  cases operation with
  | createProposalView =>
    simp only [next, Option.isSome_map, Allows]
    exact isSome_createProposalView
  | initiateOffer nType =>
    simp only [next, Option.isSome_map, Allows]
    exact isSome_initiateOffer
  | handleOfferAnswer msg =>
    simp only [next, Option.isSome_map, Allows]
    exact isSome_handleMessage
  | increaseSessionVersion => exact isSome_increaseSessionVersion
  | _ => simp [next, Allows]

end operations

section currentView

variable {ops : SessionParameterOps P} {s s' : SdpOaState P}

@[simp] theorem setCapabilities_currentView : s.setCapabilities.currentView = s.currentView := by
  unfold setCapabilities
  cases s.proposalView <;> rfl

@[simp] theorem messageTrigger_currentView {msg : SipMessage} {flow : MessageFlow}
    {isCallEstablished allowOaForNonRpr : Bool} :
    (s.messageTrigger msg flow isCallEstablished allowOaForNonRpr).1.currentView =
      s.currentView := by
  have hresponse : ∀ code, (s.responseTrigger msg code allowOaForNonRpr).1.currentView =
      s.currentView := by
    intro code
    unfold responseTrigger
    split_ifs <;> rfl
  unfold messageTrigger
  cases methodTrigger msg.method with
  | none => rfl
  | some method =>
    cases hcode : msg.statusCode with
    | none => simp only; split_ifs <;> rfl
    | some code =>
      have hviews := hresponse code
      rcases htrigger : s.responseTrigger msg code allowOaForNonRpr with ⟨noted, trigger⟩
      rw [htrigger] at hviews
      simp only [htrigger]
      cases trigger with
      | none => exact hviews
      | some trigger => simp only; split_ifs <;> exact hviews

theorem updateState_currentView {msg : SipMessage} {flow : MessageFlow}
    {isCallEstablished allowOaForNonRpr : Bool} :
    (s.updateState msg flow isCallEstablished allowOaForNonRpr).1.currentView =
      s.currentView := by
  have hsent : ∀ (s : SdpOaState P) trigger,
      (s.updateStateSent trigger).1.currentView = s.currentView := by
    intro s trigger
    unfold updateStateSent
    cases htable : stateSent s.state trigger with
    | none => simp [htable]
    | some updateState =>
      simp only [htable, noteStateChange, apply_ite SdpOaState.currentView,
        setCapabilities_currentView, ite_self]
  have hreceived : ∀ (s : SdpOaState P) trigger,
      (s.updateStateReceived msg trigger).1.currentView = s.currentView := by
    intro s trigger
    unfold updateStateReceived
    cases htable : stateReceived s.state trigger with
    | none => simp [htable]
    | some updateState =>
      simp only [htable]
      split_ifs <;> simp [noteStateChange]
  have hflow : (if flow = .sent then { s with offerProgress := false } else s).currentView =
      s.currentView := by split_ifs <;> rfl
  unfold updateState
  generalize (if flow = .sent then { s with offerProgress := false } else s) = sent at hflow
  have htriggered := @messageTrigger_currentView P { sent with stateChanged := false } msg flow
    isCallEstablished allowOaForNonRpr
  simp only
  rcases htrigger : ({ sent with stateChanged := false } : SdpOaState P).messageTrigger msg flow
    isCallEstablished allowOaForNonRpr with ⟨noted, trigger⟩
  rw [htrigger] at htriggered
  cases trigger with
  | none => exact htriggered.trans hflow
  | some trigger =>
    cases flow with
    | sent => exact (hsent noted trigger).trans (htriggered.trans hflow)
    | received => exact (hreceived noted trigger).trans (htriggered.trans hflow)

theorem isSome_currentView_negotiated {view : View} {answer : Negotiated P}
    (hview : (s.viewAt view).isSome) :
    (s.negotiated view answer).currentView.isSome ↔ s.currentView.isSome := by
  cases view with
  | currentView => exact iff_of_true rfl hview
  | _ => exact Iff.rfl

theorem isSome_currentView_handleAnswer {parser : SdpParser} {updateRemoteVersion : Bool} :
    ∀ result ∈ s.handleAnswer ops parser updateRemoteVersion,
      (result.1.currentView.isSome ↔ s.currentView.isSome) := by
  unfold handleAnswer
  cases ops.create parser with
  | none =>
    rintro result hresult
    cases hresult
    exact Iff.rfl
  | some answer =>
    have hupdated : (if updateRemoteVersion then
        { s with
          lastOfferMade := s.lastOfferMade.map
            (ops.updateRemoteVersion · (ops.getSessionVersion answer)) }
        else s).currentView = s.currentView := by split_ifs <;> rfl
    simp only
    generalize (if updateRemoteVersion then
        { s with
          lastOfferMade := s.lastOfferMade.map
            (ops.updateRemoteVersion · (ops.getSessionVersion answer)) }
        else s) = updated at hupdated
    rw [← hupdated]
    cases hview : updated.viewAt updated.currentCapabilities with
    | none => simp
    | some current =>
      simp only [Option.bind_eq_bind, Option.bind_some]
      intro result hresult
      split at hresult
      · cases hresult
        exact Iff.rfl
      · cases hresult
        exact isSome_currentView_negotiated (by simp [hview])

theorem isSome_currentView_increaseSessionVersion :
    ∀ increased ∈ s.increaseSessionVersion ops,
      increased.currentView.isSome ∧ s.currentView.isSome := by
  unfold increaseSessionVersion
  intro increased hincreased
  cases hview : s.currentView with
  | none => simp [hview] at hincreased
  | some current =>
    simp only [hview, Option.bind_eq_bind, Option.bind_some] at hincreased
    cases hincreased
    exact ⟨rfl, rfl⟩

theorem isSome_currentView_handleSameVersion {offer : P} :
    ∀ result ∈ s.handleSameVersion ops offer,
      (result.1.currentView.isSome ↔ s.currentView.isSome) := by
  intro result hresult
  have hview : s.currentView.isSome :=
    isSome_handleSameVersion.mp (Option.isSome_of_mem hresult)
  refine iff_of_true ?_ hview
  unfold handleSameVersion at hresult
  simp only [Option.bind_eq_bind, Option.mem_def, Option.bind_eq_some_iff] at hresult
  obtain ⟨current, -, hresult⟩ := hresult
  split at hresult
  · simp only [Option.bind_some, Option.bind_eq_some_iff] at hresult
    obtain ⟨current, hcurrent, hfinal⟩ := hresult
    cases hfinal
    simp [hcurrent]
  · simp only [Option.bind_eq_some_iff] at hresult
    obtain ⟨increased, -, current, hcurrent, hfinal⟩ := hresult
    cases hfinal
    simp [hcurrent]

theorem isSome_currentView_handleOffer {parser : SdpParser} :
    ∀ result ∈ s.handleOffer ops parser,
      (result.1.currentView.isSome ↔ s.currentView.isSome) := by
  unfold handleOffer
  cases ops.create parser with
  | none =>
    rintro result hresult
    cases hresult
    exact Iff.rfl
  | some param =>
    simp only
    generalize ops.updateRemoteVersion param (ops.getSessionVersion param) = offer
    cases hview : s.viewAt s.currentCapabilities with
    | none =>
      rintro result hresult
      cases hresult
      exact Iff.rfl
    | some current =>
      simp only
      intro result hresult
      split at hresult
      · cases hresult
        exact isSome_currentView_negotiated (by simp [hview])
      · cases hcompares : s.comparesMedia ops offer with
        | none => simp [hcompares] at hresult
        | some withMedia =>
          simp only [hcompares, Option.bind_eq_bind, Option.bind_some] at hresult
          split at hresult
          · exact isSome_currentView_handleSameVersion result hresult
          · cases hresult
            rw [← @isSome_currentView_negotiated P s s.currentCapabilities
              (ops.generateAnswer current offer withMedia
                (s.state = .idle || s.state = .established) (s.state ≠ .offerChangeReceived))
              (by simp [hview])]
            split <;> exact Iff.rfl

theorem isSome_currentView_handleEstablished {msg : SipMessage} {parser : SdpParser} :
    ∀ result ∈ s.handleEstablished ops msg parser,
      (result.1.currentView.isSome ↔ s.currentView.isSome) := by
  intro result hresult
  unfold handleEstablished at hresult
  simp only [Option.bind_eq_bind, Option.mem_def, Option.bind_eq_some_iff] at hresult
  obtain ⟨handled, hhandled, hfinal⟩ := hresult
  have hkept : handled.1.currentView.isSome ↔ s.currentView.isSome := by
    rw [isSome_currentView_handleAnswer handled hhandled]
    split <;> exact Iff.rfl
  rw [← hkept]
  split at hfinal
  · cases hfinal
    unfold settleLastOffer
    cases handled.1.lastOfferMade <;> cases s.lastOfferMade <;> exact Iff.rfl
  · cases hfinal
    unfold notePreview
    simp only
    split_ifs <;> exact Iff.rfl

theorem isSome_currentView_handleMessage {msg : SipMessage} :
    ∀ result ∈ s.handleMessage ops msg,
      (result.1.currentView.isSome ↔ s.currentView.isSome) := by
  unfold handleMessage
  cases s.bodyToHandle msg with
  | none =>
    rintro result hresult
    cases hresult
    exact Iff.rfl
  | some sdp =>
    simp only
    cases SdpParser.decode sdp with
    | none =>
      rintro result hresult
      cases hresult
      simp only [rollbackForMalformedSdp]
      split_ifs <;> exact Iff.rfl
    | some parser =>
      simp only [handleParsed]
      cases hstate : s.state with
      | established => exact isSome_currentView_handleEstablished
      | offerReceived => exact isSome_currentView_handleOffer
      | offerChangeReceived => exact isSome_currentView_handleOffer
      | _ =>
        rintro result hresult
        cases hresult
        exact Iff.rfl

theorem isSome_currentView_initiateOffer {nType : OfferType} :
    ∀ initiated ∈ s.initiateOffer ops nType,
      (initiated.1.currentView.isSome ↔ s.currentView.isSome) := by
  unfold initiateOffer
  intro initiated hinitiated
  split at hinitiated
  · cases hinitiated
    exact Iff.rfl
  · split at hinitiated
    · cases hinitiated
      exact Iff.rfl
    · simp only [Option.bind_eq_bind, Option.mem_def, Option.bind_eq_some_iff] at hinitiated
      obtain ⟨offer, hoffer, hfinal⟩ := hinitiated
      cases hfinal
      cases nType with
      | invalid => cases hoffer; exact Iff.rfl
      | new => cases hoffer; exact Iff.rfl
      | refresh =>
        simp only [offerOf, Option.bind_eq_bind, Option.bind_eq_some_iff] at hoffer
        obtain ⟨current, -, hoffer⟩ := hoffer
        cases hoffer
        exact Iff.rfl
      | change =>
        simp only [offerOf, Option.bind_eq_bind, Option.bind_eq_some_iff] at hoffer
        obtain ⟨current, -, hoffer⟩ := hoffer
        split at hoffer
        · simp only [Option.bind_eq_some_iff] at hoffer
          obtain ⟨increased, hincreased, hoffer⟩ := hoffer
          cases hoffer
          have hviews := isSome_currentView_increaseSessionVersion increased hincreased
          exact iff_of_true hviews.1 hviews.2
        · cases hoffer
          exact Iff.rfl

theorem isSome_currentView_completeExchange :
    (s.completeExchange ops).currentView.isSome ↔
      s.currentView.isSome ∨ s.state = .established ∧ s.proposalView.isSome := by
  unfold completeExchange
  cases hstate : s.state with
  | established => cases hproposal : s.proposalView <;> simp
  | _ => simp

theorem isSome_currentView_next {operation : Operation P}
    (hnext : s.next ops operation = some s') :
    s'.currentView.isSome ↔ s.currentView.isSome ∨ s.completes operation := by
  cases operation with
  | completeExchange =>
    cases hnext
    rw [isSome_currentView_completeExchange]
    simp [completes]
  | increaseSessionVersion =>
    have hviews := isSome_currentView_increaseSessionVersion s' hnext
    exact iff_of_true hviews.1 (.inl hviews.2)
  | createProposalView =>
    obtain ⟨created, hcreated, rfl⟩ := Option.map_eq_some_iff.mp hnext
    unfold createProposalView at hcreated
    simp only [completes, Bool.false_eq_true, or_false]
    split at hcreated
    · cases hcreated
      exact Iff.rfl
    · split at hcreated
      · cases hcreated
        exact Iff.rfl
      · simp only [Option.bind_eq_bind, Option.bind_eq_some_iff] at hcreated
        obtain ⟨initiated, hinitiated, hfinal⟩ := hcreated
        cases hfinal
        exact isSome_currentView_initiateOffer initiated hinitiated
  | initiateOffer nType =>
    obtain ⟨initiated, hinitiated, rfl⟩ := Option.map_eq_some_iff.mp hnext
    simpa only [completes, Bool.false_eq_true, or_false] using
      isSome_currentView_initiateOffer initiated hinitiated
  | handleOfferAnswer msg =>
    obtain ⟨handled, hhandled, rfl⟩ := Option.map_eq_some_iff.mp hnext
    simpa only [completes, Bool.false_eq_true, or_false] using
      isSome_currentView_handleMessage handled hhandled
  | updateState msg flow isCallEstablished allowOaForNonRpr =>
    cases hnext
    simp [completes, updateState_currentView]
  | createCapabilities capabilities created =>
    cases hnext
    unfold createCapabilities
    split_ifs <;> simp [completes]
  | restoreState =>
    cases hnext
    simp [completes, restoreState]
  | abortProposal =>
    cases hnext
    unfold abortProposal
    cases s.proposalView <;> simp [completes]
  | enablePreviewModeSupport =>
    cases hnext
    simp [completes]
  | updateStateOnTransactionCompleted msg =>
    cases hnext
    unfold updateStateOnTransactionCompleted
    split_ifs <;> simp [completes]

end currentView

/-- Each operation of the run is allowed; `completed` says that an exchange has been completed
before. -/
def Follows (ops : SessionParameterOps P) (completed : Prop) (s : SdpOaState P) :
    List (Operation P) → Prop
  | [] => True
  | operation :: rest => s.Allows ops completed operation ∧
      ∀ s' ∈ s.next ops operation, Follows ops (completed ∨ s.completes operation) s' rest

/-- A new `SdpOaState`. -/
def new (sdpVersionCheck alwaysIncreaseSdpVersion : Bool) (capabilities : P) : SdpOaState P :=
  { sdpVersionCheck, alwaysIncreaseSdpVersion, capabilities }

theorem isSome_run {ops : SessionParameterOps P} {operations : List (Operation P)}
    {s : SdpOaState P} :
    (s.run ops operations).isSome ↔ s.Follows ops s.currentView.isSome operations := by
  induction operations generalizing s with
  | nil => simp [run, Follows]
  | cons operation rest ih =>
    simp only [run, Follows]
    rw [← isSome_next]
    cases hnext : s.next ops operation with
    | none => simp
    | some s' =>
      rw [Option.bind_some, ih]
      simp only [Option.isSome_some, Option.mem_some_iff, forall_eq', true_and]
      rw [isSome_currentView_next hnext]

/-- In every run of a new object, no operation dereferences a view that is not there exactly when
each operation is allowed by those before it. -/
theorem isSome_run_new (ops : SessionParameterOps P)
    (sdpVersionCheck alwaysIncreaseSdpVersion : Bool) (capabilities : P)
    (operations : List (Operation P)) :
    ((new sdpVersionCheck alwaysIncreaseSdpVersion capabilities).run ops operations).isSome ↔
      (new sdpVersionCheck alwaysIncreaseSdpVersion capabilities).Follows ops False operations := by
  rw [isSome_run]
  simp [new]

/-- Session parameters without any content. -/
def emptyParameters : SessionParameterOps Unit where
  create := fun _ => some ()
  getMediaCount := fun _ => 0
  getSessionVersion := fun _ => []
  getRemoteVersion := fun _ => []
  updateRemoteVersion := fun _ _ => ()
  isSameVersion := fun _ _ => true
  increaseSessionVersion := fun _ => ()
  isLastSdpProvidedWithNegotiatedSdp := fun _ => false
  setLastSdpProvidedWithNegotiatedSdp := fun _ _ => ()
  updateDirection := fun _ _ => ()
  copyOffer := fun _ _ => ⟨(), (), (), .success⟩
  generateAnswer := fun _ _ _ _ _ => ⟨(), (), (), .success⟩
  processAnswer := fun _ _ => ⟨(), (), (), .success⟩

/-- `CreateProposalView` on a new object copies the current view, which is not there. -/
theorem not_isSome_run : ¬∀ operations : List (Operation Unit),
    ((new true false ()).run emptyParameters operations).isSome := by
  intro hrun
  have hcreate := hrun [.createProposalView]
  revert hcreate
  decide

end ImsStack.OfferAnswer.SdpOaState
