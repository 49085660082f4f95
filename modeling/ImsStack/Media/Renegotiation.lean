import ImsStack.Media.OwnLines

/-!
Exchanges that do not complete: what a negotiated session is left with when `FinalizeNegotiation`
ends them, and which media an answer is reported for.
-/

namespace ImsStack.Media

universe u

variable {P X R D : Type u}

namespace MediaNego

/-! ### Runs -/

inductive MediaEvent (D : Type u) where
  | formSdp (request : SdpRequest) (lines : List MediaLine)
  | negotiateSdp (lines : List (Option (PeerLine D))) (bPreview : Bool)
  | finalizeNegotiation
  | setPreviewMode (bPreview : Bool)

variable (env : MediaEnvironment P X R D)

def new (pBaseProfile : MediaType → Option (MediaBaseProfile P X R)) : MediaNego P X R where
  eNegoState := .idle
  bPreviewMode := false
  nego m := ⟨pBaseProfile m, []⟩

/-- The negotiation of a forked dialog. -/
def fork (x : MediaNego P X R) : MediaNego P X R where
  eNegoState := .offerSent
  bPreviewMode := false
  nego m := (x.nego m).fork

def step (x : MediaNego P X R) : MediaEvent D → MediaNego P X R
  | .formSdp request lines => (x.formSdp env request lines).1
  | .negotiateSdp lines bPreview => (x.negotiateSdp env lines bPreview).1
  | .finalizeNegotiation => x.finalizeNegotiation env
  | .setPreviewMode bPreview => { x with bPreviewMode := bPreview }

def run (x : MediaNego P X R) (events : List (MediaEvent D)) : MediaNego P X R :=
  events.foldl (step env) x

/-! ### What an exchange is to leave -/

/-- The session is negotiated, holds no offer that was not completed, and each media reports the
profiles that it reported before. -/
structure Restored (x₀ x : MediaNego P X R) : Prop where
  negotiated : x.eNegoState = .negotiated
  complete : ∀ m, (x.nego m).AllComplete
  reports : ∀ m, (x.nego m).getNegotiatedOaModel = (x₀.nego m).getNegotiatedOaModel

/-- A session before an exchange: at most the last offer of a media is not completed, rejected
media have their payloads, and some media has a codec. -/
structure Settled (x₀ : MediaNego P X R) : Prop where
  negotiated : x₀.eNegoState = .negotiated
  complete : ∀ m, (x₀.nego m).cleanupIncompleteOaModels.AllComplete
  filled : ∀ m, (x₀.nego m).IsFilled
  codec : ∃ m, (x₀.nego m).getNegotiatedQuality (env.negotiator m) ≠ .none

/-- The line of the peer that a media is given. -/
def takenLine (lines : List (Option (PeerLine D))) (m : MediaType) : Option (PeerLine D) :=
  (lines.filterMap id).find? fun line =>
    decide (line.eType.media? = some m) &&
      !(decide (line.bIpVersionMatches = false) && decide (line.nRemotePort ≠ 0))

/-- The description of the peer is not accepted for the media; an answer only comes to an offer
that is not completed. -/
def RefusesLine (x : MediaNego P X R) (m : MediaType) (line : PeerLine D) : Prop :=
  match x.eNegoState with
  | .offerReceived => True
  | .offerSent => ∀ last, (x.nego m).listOaModel.getLast? = some last →
      last.isAllProfileExist = false ∧
        (last.pLocalProfile.bind fun localProfile =>
          BaseNego.accept (env.negotiator m) localProfile line.descriptor false) = none
  | _ => ∀ base, (x.nego m).pBaseProfile = some base →
      BaseNego.accept (env.negotiator m) base line.descriptor true = none

/-- The line that `FormSdp` chooses for a media. -/
def descriptorOf (x : MediaNego P X R) (request : SdpRequest) (lines : List MediaLine) :
    MediaType → Option Nat :=
  descriptors x.eNegoState (x.needToMakeMedia request)
    (x.createMediaLines env (x.needToMakeMedia request) lines)

/-- No media is offered whose last offer is not completed; and of an answer not even the first
media is formed. -/
def RefusesRequest (x : MediaNego P X R) (request : SdpRequest) (lines : List MediaLine) : Prop :=
  match x.eNegoState with
  | .offerSent => True
  | .offerReceived => x.bPreviewMode = true ∨ ∀ m,
      MediaType.all.find? (fun m => (x.descriptorOf env request lines m).isSome) = some m →
        (x.nego m).checkAnswer m (request.eDirection m) (!request.bRequested m) = false ∨
          (x.nego m).getNegotiatedOaModel = none
  | _ => x.bPreviewMode = true ∨ ∀ m, (x.descriptorOf env request lines m).isSome = true →
      (x.nego m).AllComplete

/-- The steps of an exchange that does not complete. -/
def Refuses (x : MediaNego P X R) : MediaEvent D → Prop
  | .formSdp request lines => x.RefusesRequest env request lines
  | .negotiateSdp lines _ => ∀ m line, takenLine lines m = some line → x.RefusesLine env m line
  | .finalizeNegotiation => True
  | .setPreviewMode _ => True

/-- Each step of a run is one of an exchange that does not complete. -/
def AllRefuse : MediaNego P X R → List (MediaEvent D) → Prop
  | _, [] => True
  | x, event :: events => x.Refuses env event ∧ AllRefuse (x.step env event) events

/-- In the midst of such an exchange a media holds what it holds without the offer that is not
completed, and at most one such offer. -/
structure Pending (x₀ x : MediaNego P X R) : Prop where
  state : x.eNegoState ≠ .idle
  nego : ∀ m, x.nego m = (x₀.nego m).cleanupIncompleteOaModels ∨
    ∃ model : OaModel P X R, model.isAllProfileExist = false ∧
      x.nego m = (x₀.nego m).cleanupIncompleteOaModels.append model

variable {env} {x₀ x : MediaNego P X R}

theorem Pending.filled (h : Pending x₀ x) (hfilled : ∀ m, (x₀.nego m).IsFilled) (m : MediaType) :
    (x.nego m).IsFilled := by
  have hcleanup := BaseNego.isFilled_cleanup (hfilled m)
  rcases h.nego m with hnego | ⟨model, hmodel, hnego⟩
  · rw [hnego]
    exact hcleanup
  · rw [hnego]
    exact (BaseNego.isFilled_append_iff hmodel).mpr hcleanup

theorem Pending.nego_of_allComplete (h : Pending x₀ x) {m : MediaType}
    (hcomplete : (x.nego m).AllComplete) : x.nego m = (x₀.nego m).cleanupIncompleteOaModels := by
  rcases h.nego m with hnego | ⟨model, hmodel, hnego⟩
  · exact hnego
  · rw [hnego] at hcomplete
    exact absurd hcomplete (BaseNego.not_allComplete_append hmodel)

/-! ### `FormSdp` -/

theorem setNego_nego_self (m : MediaType) (nego : BaseNego P X R) :
    (x.setNego m nego).nego m = nego := Function.update_self ..

theorem setNego_nego_of_ne {m m' : MediaType} (h : m ≠ m') (nego : BaseNego P X R) :
    (x.setNego m' nego).nego m = x.nego m := Function.update_of_ne h ..

theorem updateNegoState_ne_idle {bFormSdp : Bool} (h : x.eNegoState ≠ .idle) :
    (x.updateNegoState bFormSdp).eNegoState ≠ .idle := by
  obtain ⟨eNegoState, bPreviewMode, nego⟩ := x
  intro hidle
  cases eNegoState <;> cases bPreviewMode <;> cases bFormSdp <;> first
    | exact h rfl
    | cases hidle

section FormSdp

variable {request : SdpRequest} {eNegoState : NegoState} {pDescriptor : MediaType → Option Nat}
  {ms : List MediaType} {form : SdpForm P X R} {m : MediaType}

theorem processMediaLine_eNegoState :
    (processMediaLine env request eNegoState pDescriptor ms form).mediaNego.eNegoState =
      form.mediaNego.eNegoState := by
  induction ms generalizing form with
  | nil => rfl
  | cons first ms ih =>
      unfold processMediaLine
      split
      · exact ih
      · split
        · rfl
        · exact ih

theorem processMediaLine_nego_of_notMem (hm : m ∉ ms) :
    (processMediaLine env request eNegoState pDescriptor ms form).mediaNego.nego m =
      form.mediaNego.nego m := by
  induction ms generalizing form with
  | nil => rfl
  | cons first ms ih =>
      obtain ⟨hne, hrest⟩ := not_or.mp fun h => hm (List.mem_cons.mpr h)
      unfold processMediaLine
      split
      · exact ih hrest
      · split
        · rfl
        · exact (ih hrest).trans (setNego_nego_of_ne hne _)

theorem processMediaLine_nego (hms : ms.Nodup) {nego : BaseNego P X R}
    (hnego : form.mediaNego.nego m = nego) :
    (processMediaLine env request eNegoState pDescriptor ms form).mediaNego.nego m = nego ∨
      ∃ profile, nego.formSdp (env.negotiator m) m eNegoState
        (request.eDirection m) (!request.bRequested m) request.bEnforceReofferMode =
          some ((processMediaLine env request eNegoState pDescriptor ms form).mediaNego.nego m,
            profile) := by
  induction ms generalizing form with
  | nil => exact .inl hnego
  | cons first ms ih =>
      obtain ⟨hfirst, hnodup⟩ := List.nodup_cons.mp hms
      unfold processMediaLine
      split
      · exact ih hnodup hnego
      · split
        · exact .inl hnego
        · rename_i made hmade
          dsimp only
          rcases Decidable.em (m = first) with rfl | hm
          · right
            refine ⟨made.2, ?_⟩
            rw [hnego] at hmade
            rw [processMediaLine_nego_of_notMem hfirst]
            exact hmade.trans (congrArg (fun nego => some (nego, made.2))
              (setNego_nego_self m made.1).symm)
          · exact ih hnodup ((setNego_nego_of_ne hm _).trans hnego)

theorem processMediaLine_of_fails
    (hfails : ∀ m, ms.find? (fun m => (pDescriptor m).isSome) = some m →
      (form.mediaNego.nego m).formSdp (env.negotiator m) m eNegoState
        (request.eDirection m) (!request.bRequested m) request.bEnforceReofferMode = none) :
    (processMediaLine env request eNegoState pDescriptor ms form).mediaNego = form.mediaNego := by
  induction ms with
  | nil => rfl
  | cons first ms ih =>
      unfold processMediaLine
      cases hdescriptor : pDescriptor first with
      | none =>
          apply ih
          intro m hm
          apply hfails
          rw [List.find?_cons, hdescriptor]
          exact hm
      | some nLine =>
          have hfirst := hfails first (by rw [List.find?_cons, hdescriptor]; rfl)
          dsimp only
          rw [hfirst]

theorem processMediaLine_nego_of_noLine (hm : pDescriptor m = none) :
    (processMediaLine env request eNegoState pDescriptor ms form).mediaNego.nego m =
      form.mediaNego.nego m := by
  induction ms generalizing form with
  | nil => rfl
  | cons first ms ih =>
      unfold processMediaLine
      cases hdescriptor : pDescriptor first with
      | none => exact ih
      | some nLine =>
          dsimp only
          split
          · rfl
          · have hne : m ≠ first := by
              rintro rfl
              rw [hm] at hdescriptor
              cases hdescriptor
            exact ih.trans (setNego_nego_of_ne hne _)

theorem formAnswer_eq_none {nego : BaseNego P X R} {bDisable : Bool} {eDirection : MediaDirection}
    (h : nego.checkAnswer m eDirection bDisable = false ∨ nego.getNegotiatedOaModel = none) :
    nego.formAnswer m eDirection bDisable = none := by
  unfold BaseNego.formAnswer
  rcases h with hcheck | hmodel
  · rw [hcheck]
    rfl
  · rw [hmodel]
    split <;> rfl

/-- The media of a session whose description is asked for. -/
def afterLines (env : MediaEnvironment P X R D) (x : MediaNego P X R) (request : SdpRequest)
    (lines : List MediaLine) : MediaNego P X R :=
  (processMediaLine env request x.eNegoState (x.descriptorOf env request lines) MediaType.all
    ⟨x, [], 0, true⟩).mediaNego

theorem formSdp_cases (env : MediaEnvironment P X R D) (x : MediaNego P X R)
    (request : SdpRequest) (lines : List MediaLine) :
    (x.formSdp env request lines).1 = x ∨
      ¬(x.eNegoState = .offerSent ∨ x.bPreviewMode = true) ∧
        ((x.formSdp env request lines).1 = afterLines env x request lines ∨
          (x.formSdp env request lines).1 = (afterLines env x request lines).updateNegoState true) := by
  unfold MediaNego.formSdp
  split
  · exact .inl rfl
  · rename_i hstate
    right
    refine ⟨hstate, ?_⟩
    dsimp only
    split
    · exact .inr rfl
    · exact .inl rfl

theorem Pending.afterLines (h : Pending x₀ x) {lines : List MediaLine}
    (hstate : ¬(x.eNegoState = .offerSent ∨ x.bPreviewMode = true))
    (hrefuses : x.RefusesRequest env request lines) :
    Pending x₀ (afterLines env x request lines) := by
  obtain ⟨hsent, hpreview⟩ := not_or.mp hstate
  refine ⟨?_, ?_⟩
  · unfold MediaNego.afterLines
    rw [processMediaLine_eNegoState]
    exact h.state
  intro m
  unfold RefusesRequest at hrefuses
  cases hnego : x.eNegoState with
  | idle => exact absurd hnego h.state
  | offerSent => exact absurd hnego hsent
  | offerReceived =>
      rw [hnego] at hrefuses
      have hfails := hrefuses.resolve_left hpreview
      have hsame : MediaNego.afterLines env x request lines = x := by
        unfold MediaNego.afterLines
        rw [hnego]
        apply processMediaLine_of_fails
        intro m hm
        exact formAnswer_eq_none (hfails m hm)
      rw [hsame]
      exact h.nego m
  | negotiated =>
      rw [hnego] at hrefuses
      have hcomplete := hrefuses.resolve_left hpreview m
      unfold MediaNego.afterLines
      cases hline : x.descriptorOf env request lines m with
      | none =>
          rw [processMediaLine_nego_of_noLine hline]
          exact h.nego m
      | some nLine =>
          rw [hline] at hcomplete
          have hbefore : (SdpForm.mk x [] 0 true).mediaNego.nego m =
              (x₀.nego m).cleanupIncompleteOaModels := h.nego_of_allComplete (hcomplete rfl)
          rcases processMediaLine_nego MediaType.nodup_all hbefore with hafter | ⟨profile, hmade⟩
          · exact .inl hafter
          · have hne : x.eNegoState ≠ .offerReceived := by
              rw [hnego]
              decide
            obtain ⟨localProfile, happend⟩ := (BaseNego.formSdp_forms hmade).offer hne
            exact .inr ⟨⟨some localProfile, none, none⟩, rfl, happend⟩

theorem Pending.formSdp (h : Pending x₀ x) {lines : List MediaLine}
    (hrefuses : x.RefusesRequest env request lines) :
    Pending x₀ (x.formSdp env request lines).1 := by
  rcases formSdp_cases env x request lines with
    hsame | ⟨hstate, hafter | hafter⟩
  · rw [hsame]
    exact h
  · rw [hafter]
    exact h.afterLines hstate hrefuses
  · rw [hafter]
    have hpending := h.afterLines hstate hrefuses
    exact ⟨updateNegoState_ne_idle hpending.state, hpending.nego⟩

end FormSdp

/-! ### `NegotiateSdp` -/

section NegotiateSdp

variable {lines : List (Option (PeerLine D))} {m : MediaType}

/-- The lines that are given to a media after some were taken. -/
def takenAfter (bDescriptorTaken : MediaType → Bool) (lines : List (Option (PeerLine D)))
    (m : MediaType) : Option (PeerLine D) :=
  if bDescriptorTaken m then none else takenLine lines m

theorem takenLine_cons_some (line : PeerLine D) (m : MediaType) :
    takenLine (some line :: lines) m =
      if line.eType.media? = some m ∧
        ¬(line.bIpVersionMatches = false ∧ line.nRemotePort ≠ 0) then some line
      else takenLine lines m := by
  unfold takenLine
  show List.find? _ (line :: lines.filterMap id) = _
  rw [List.find?_cons]
  by_cases htaken : line.eType.media? = some m ∧
      ¬(line.bIpVersionMatches = false ∧ line.nRemotePort ≠ 0)
  · rw [if_pos htaken]
    have htrue : (decide (line.eType.media? = some m) &&
        !(decide (line.bIpVersionMatches = false) && decide (line.nRemotePort ≠ 0))) = true := by
      rw [← Bool.decide_and, ← decide_not, ← Bool.decide_and]
      exact decide_eq_true htaken
    rw [htrue]
  · rw [if_neg htaken]
    have hfalse : (decide (line.eType.media? = some m) &&
        !(decide (line.bIpVersionMatches = false) && decide (line.nRemotePort ≠ 0))) = false := by
      rw [← Bool.decide_and, ← decide_not, ← Bool.decide_and]
      exact decide_eq_false htaken
    rw [hfalse]

/-- Each media is given its line, and nothing else is changed. -/
structure Given (env : MediaEnvironment P X R D) (bDescriptorTaken : MediaType → Bool)
    (lines : List (Option (PeerLine D))) (x x' : MediaNego P X R) : Prop where
  eNegoState : x'.eNegoState = x.eNegoState
  nego : ∀ m, x'.nego m =
    match takenAfter bDescriptorTaken lines m with
    | none => x.nego m
    | some line => (x.nego m).negotiateSdp (env.negotiator m) x.eNegoState line.descriptor

theorem foldl_negotiateLine (negotiation : SdpNegotiation P X R) :
    Given env negotiation.bDescriptorTaken lines negotiation.mediaNego
      (lines.foldl (negotiateLine env) negotiation).mediaNego := by
  induction lines generalizing negotiation with
  | nil =>
      refine ⟨rfl, ?_⟩
      intro m
      unfold takenAfter takenLine
      cases negotiation.bDescriptorTaken m <;> rfl
  | cons line lines ih =>
      rw [List.foldl_cons]
      -- A line that no media takes leaves the lines behind it as they are.
      have hskips : ∀ line : PeerLine D,
          (∀ m, negotiation.bDescriptorTaken m = false →
            ¬(line.eType.media? = some m ∧
              ¬(line.bIpVersionMatches = false ∧ line.nRemotePort ≠ 0))) →
          Given env negotiation.bDescriptorTaken (some line :: lines) negotiation.mediaNego
            (lines.foldl (negotiateLine env) negotiation).mediaNego := by
        intro line hline
        refine ⟨(ih negotiation).eNegoState, ?_⟩
        intro m
        have hsame : takenAfter negotiation.bDescriptorTaken (some line :: lines) m =
            takenAfter negotiation.bDescriptorTaken lines m := by
          unfold takenAfter
          cases htaken : negotiation.bDescriptorTaken m with
          | true => rfl
          | false =>
              rw [if_neg Bool.false_ne_true, if_neg Bool.false_ne_true, takenLine_cons_some,
                if_neg (hline m htaken)]
        rw [hsame]
        exact (ih negotiation).nego m
      cases line with
      | none => exact ⟨(ih negotiation).eNegoState, (ih negotiation).nego⟩
      | some line =>
          by_cases hmismatch : line.bIpVersionMatches = false ∧ line.nRemotePort ≠ 0
          · have hstep : negotiateLine env negotiation (some line) = negotiation := if_pos hmismatch
            rw [hstep]
            exact hskips line fun m _ hline => hline.2 hmismatch
          · have hline : negotiateLine env negotiation (some line) =
                updateMediaDescriptor env negotiation line := if_neg hmismatch
            rw [hline]
            cases hmedia : line.eType.media? with
            | none =>
                have hstep : updateMediaDescriptor env negotiation line = negotiation := by
                  unfold updateMediaDescriptor
                  rw [hmedia]
                rw [hstep]
                apply hskips
                intro m _ hline
                rw [hmedia] at hline
                cases hline.1
            | some m' =>
                cases htaken : negotiation.bDescriptorTaken m' with
                | true =>
                    have hstep : updateMediaDescriptor env negotiation line = negotiation := by
                      unfold updateMediaDescriptor
                      rw [hmedia]
                      exact if_pos htaken
                    rw [hstep]
                    apply hskips
                    intro m hm hline
                    rw [hmedia] at hline
                    rw [← Option.some.inj hline.1, htaken] at hm
                    cases hm
                | false =>
                    have hstep : updateMediaDescriptor env negotiation line =
                        { mediaNego := negotiation.mediaNego.setNego m'
                            ((negotiation.mediaNego.nego m').negotiateSdp (env.negotiator m')
                              negotiation.mediaNego.eNegoState line.descriptor)
                          bDescriptorTaken :=
                            Function.update negotiation.bDescriptorTaken m' true } := by
                      unfold updateMediaDescriptor
                      rw [hmedia]
                      exact if_neg fun htrue => Bool.false_ne_true (htaken.symm.trans htrue)
                    rw [hstep]
                    have hnext := ih
                      { mediaNego := negotiation.mediaNego.setNego m'
                          ((negotiation.mediaNego.nego m').negotiateSdp (env.negotiator m')
                            negotiation.mediaNego.eNegoState line.descriptor)
                        bDescriptorTaken := Function.update negotiation.bDescriptorTaken m' true }
                    refine ⟨hnext.eNegoState, ?_⟩
                    intro m
                    rw [hnext.nego m]
                    unfold takenAfter
                    dsimp only
                    rcases Decidable.em (m = m') with rfl | hm
                    · simp only [Function.update_self, if_true, htaken, Bool.false_eq_true, if_false,
                        takenLine_cons_some, if_pos (And.intro hmedia hmismatch)]
                      exact setNego_nego_self m _
                    · have hnot : ¬(line.eType.media? = some m ∧
                          ¬(line.bIpVersionMatches = false ∧ line.nRemotePort ≠ 0)) := by
                        intro hline
                        rw [hmedia] at hline
                        exact hm (Option.some.inj hline.1).symm
                      simp only [Function.update_of_ne hm, takenLine_cons_some, if_neg hnot,
                        setNego_nego_of_ne hm]
                      rfl

theorem negotiateAnswer_of_refused {negotiator : MediaNegotiator P X R D} {nego : BaseNego P X R}
    {descriptor : D} (h : ∀ last, nego.listOaModel.getLast? = some last →
      last.isAllProfileExist = false ∧ (last.pLocalProfile.bind fun localProfile =>
        BaseNego.accept negotiator localProfile descriptor false) = none) :
    nego.negotiateAnswer negotiator descriptor = nego.cleanupIncompleteOaModels := by
  unfold BaseNego.negotiateAnswer BaseNego.cleanupIncompleteOaModels
  cases hlast : nego.listOaModel.getLast? with
  | none => rfl
  | some last =>
      obtain ⟨hincomplete, haccept⟩ := h last hlast
      dsimp only
      rw [haccept, hincomplete, if_neg Bool.false_ne_true]

theorem negotiateOffer_of_refused {negotiator : MediaNegotiator P X R D} {nego : BaseNego P X R}
    {descriptor : D} (h : ∀ base, nego.pBaseProfile = some base →
      BaseNego.accept negotiator base descriptor true = none) :
    nego.negotiateOffer negotiator descriptor = nego := by
  unfold BaseNego.negotiateOffer
  cases hbase : nego.pBaseProfile with
  | none => rfl
  | some base =>
      dsimp only
      rw [h base hbase]

theorem Pending.cleanup (h : Pending x₀ x)
    (hcomplete : ∀ m, (x₀.nego m).cleanupIncompleteOaModels.AllComplete) (m : MediaType) :
    (x.nego m).cleanupIncompleteOaModels = (x₀.nego m).cleanupIncompleteOaModels := by
  rcases h.nego m with hnego | ⟨model, hmodel, hnego⟩
  · rw [hnego]
    exact BaseNego.cleanup_of_allComplete (hcomplete m)
  · rw [hnego]
    exact BaseNego.cleanup_append hmodel

/-- A line that is refused leaves the media as it is, or takes back its offer. -/
theorem Pending.negotiate_refused (h : Pending x₀ x)
    (hcomplete : ∀ m, (x₀.nego m).cleanupIncompleteOaModels.AllComplete)
    {line : PeerLine D} (hrefuses : x.RefusesLine env m line) :
    (x.nego m).negotiateSdp (env.negotiator m) x.eNegoState line.descriptor = x.nego m ∨
      (x.nego m).negotiateSdp (env.negotiator m) x.eNegoState line.descriptor =
        (x₀.nego m).cleanupIncompleteOaModels := by
  unfold RefusesLine at hrefuses
  cases hstate : x.eNegoState with
  | idle => exact absurd hstate h.state
  | offerReceived => exact .inl rfl
  | negotiated =>
      rw [hstate] at hrefuses
      exact .inl (negotiateOffer_of_refused hrefuses)
  | offerSent =>
      rw [hstate] at hrefuses
      exact .inr ((negotiateAnswer_of_refused hrefuses).trans (h.cleanup hcomplete m))

theorem fillForQuality_of_filled (h : ∀ m, (x.nego m).IsFilled) : x.fillForQuality = x := by
  have hnego : (fun m => if (x.nego m).getNegotiatedRtpPort < leastRtpPort m then x.nego m
      else (x.nego m).fillNegotiatedPayload) = x.nego := by
    funext m
    rw [h m, ite_self]
  unfold fillForQuality
  rw [hnego]

theorem Pending.negotiateLines (h : Pending x₀ x)
    (hcomplete : ∀ m, (x₀.nego m).cleanupIncompleteOaModels.AllComplete)
    (hrefuses : ∀ m line, takenLine lines m = some line → x.RefusesLine env m line) :
    Pending x₀ (lines.foldl (negotiateLine env) ⟨x, fun _ => false⟩).mediaNego := by
  have hgiven : Given env (fun _ => false) lines x
      (lines.foldl (negotiateLine env) ⟨x, fun _ => false⟩).mediaNego :=
    foldl_negotiateLine ⟨x, fun _ => false⟩
  refine ⟨?_, ?_⟩
  · rw [hgiven.eNegoState]
    exact h.state
  · intro m
    have hnego := hgiven.nego m
    cases hline : takenLine lines m with
    | none =>
        have hsame : takenAfter (fun _ => false) lines m = none := hline
        rw [hsame] at hnego
        rw [hnego]
        exact h.nego m
    | some line =>
        have htaken : takenAfter (fun _ => false) lines m = some line := hline
        rw [htaken] at hnego
        rw [hnego]
        rcases h.negotiate_refused hcomplete (hrefuses m line hline) with hsame | hcleaned
        · dsimp only
          rw [hsame]
          exact h.nego m
        · exact .inl hcleaned

theorem Pending.negotiateSdp (h : Pending x₀ x)
    (hcomplete : ∀ m, (x₀.nego m).cleanupIncompleteOaModels.AllComplete)
    (hfilled : ∀ m, (x₀.nego m).IsFilled) {bPreview : Bool}
    (hrefuses : ∀ m line, takenLine lines m = some line → x.RefusesLine env m line) :
    Pending x₀ (x.negotiateSdp env lines bPreview).1 := by
  have hpending := h.negotiateLines hcomplete hrefuses
  unfold MediaNego.negotiateSdp
  dsimp only
  rw [fillForQuality_of_filled fun m => hpending.filled hfilled m]
  split
  · exact ⟨updateNegoState_ne_idle hpending.state, hpending.nego⟩
  · exact hpending

end NegotiateSdp

/-! ### `FinalizeNegotiation` -/

theorem getNegotiatedQuality_cleanup {negotiator : MediaNegotiator P X R D}
    {nego : BaseNego P X R} :
    nego.cleanupIncompleteOaModels.getNegotiatedQuality negotiator =
      nego.getNegotiatedQuality negotiator := by
  unfold BaseNego.getNegotiatedQuality BaseNego.getNegotiatedPayload
  rw [BaseNego.getNegotiatedOaModel_cleanup]

theorem Pending.finalize (h : Pending x₀ x) (hsettled : Settled env x₀) :
    (x.finalizeNegotiation env).eNegoState = .negotiated ∧
      ∀ m, (x.finalizeNegotiation env).nego m = (x₀.nego m).cleanupIncompleteOaModels := by
  have hnego : ∀ m, (x.nego m).cleanupIncompleteOaModels.fillNegotiatedPayload =
      (x₀.nego m).cleanupIncompleteOaModels := by
    intro m
    rw [h.cleanup hsettled.complete m]
    exact BaseNego.isFilled_cleanup (hsettled.filled m)
  refine ⟨?_, hnego⟩
  unfold finalizeNegotiation
  dsimp only
  apply if_pos
  refine ⟨?_, h.state⟩
  obtain ⟨m, hm⟩ := hsettled.codec
  apply List.any_eq_true.mpr
  refine ⟨m, MediaType.mem_all m, ?_⟩
  apply decide_eq_true
  rw [hnego m, getNegotiatedQuality_cleanup]
  exact hm

theorem Pending.restored (h : Pending x₀ x) (hsettled : Settled env x₀) :
    Restored x₀ (x.finalizeNegotiation env) := by
  obtain ⟨hstate, hnego⟩ := h.finalize hsettled
  refine ⟨hstate, ?_, ?_⟩
  · intro m
    rw [hnego m]
    exact hsettled.complete m
  · intro m
    rw [hnego m]
    exact BaseNego.getNegotiatedOaModel_cleanup

/-! ### Exchanges -/

theorem Pending.step (h : Pending x₀ x) (hsettled : Settled env x₀) {event : MediaEvent D}
    (hrefuses : x.Refuses env event) : Pending x₀ (x.step env event) := by
  cases event with
  | formSdp request lines => exact h.formSdp hrefuses
  | negotiateSdp lines bPreview => exact h.negotiateSdp hsettled.complete hsettled.filled hrefuses
  | finalizeNegotiation =>
      obtain ⟨hstate, hnego⟩ := h.finalize hsettled
      refine ⟨?_, ?_⟩
      · show (x.finalizeNegotiation env).eNegoState ≠ .idle
        rw [hstate]
        decide
      · intro m
        exact .inl (hnego m)
  | setPreviewMode bPreview => exact ⟨h.state, h.nego⟩

theorem Pending.run (h : Pending x₀ x) (hsettled : Settled env x₀) {events : List (MediaEvent D)}
    (hrefuse : AllRefuse env x events) : Pending x₀ (x.run env events) := by
  induction events generalizing x with
  | nil => exact h
  | cons event events ih => exact ih (h.step hsettled hrefuse.1) hrefuse.2

theorem Settled.pending (h : Settled env x₀) : Pending x₀ x₀ where
  state := by
    rw [h.negotiated]
    decide
  nego := fun m => BaseNego.eq_cleanup_or (x₀.nego m)

/-- Whatever is done after an exchange that does not complete, `FinalizeNegotiation` restores. -/
theorem Settled.restored (h : Settled env x₀) {events : List (MediaEvent D)}
    (hrefuse : AllRefuse env x₀ events) : Restored x₀ ((x₀.run env events).finalizeNegotiation env) :=
  (h.pending.run h hrefuse).restored h

/-! ### What is reported of an answer -/

section Answer

variable (env) (x) (lines : List (Option (PeerLine D))) (m : MediaType)

/-- The media has a line of the answer that is accepted for its last offer. -/
def Accepted : Prop :=
  ∃ line last localProfile, takenLine lines m = some line ∧
    (x.nego m).listOaModel.getLast? = some last ∧ last.pLocalProfile = some localProfile ∧
      (BaseNego.accept (env.negotiator m) localProfile line.descriptor false).isSome = true

/-- What the media has where the answer is not accepted for it. -/
def withoutAnswer : BaseNego P X R :=
  if (takenLine lines m).isSome then
    { x.nego m with listOaModel := (x.nego m).listOaModel.dropLast }
  else x.nego m

/-- The media was negotiated with a port and a codec that is used. -/
def ReportsOlder (nego : BaseNego P X R) : Prop :=
  leastRtpPort m ≤ nego.getNegotiatedRtpPort ∧
    nego.fillNegotiatedPayload.getNegotiatedQuality (env.negotiator m) = .used

variable {env} {x} {lines} {m}

theorem isQualityUsed_fillForQuality :
    x.fillForQuality.isQualityUsed env m = true ↔ ReportsOlder env m (x.nego m) := by
  have hnego : x.fillForQuality.nego m =
      if (x.nego m).getNegotiatedRtpPort < leastRtpPort m then x.nego m
      else (x.nego m).fillNegotiatedPayload := rfl
  unfold isQualityUsed ReportsOlder
  rw [Bool.and_eq_true, decide_eq_true_iff, decide_eq_true_iff, hnego]
  split
  · rename_i hport
    constructor
    · rintro ⟨hleast, -⟩
      exact absurd hleast (Int.not_le.mpr hport)
    · rintro ⟨hleast, -⟩
      exact absurd hleast (Int.not_le.mpr hport)
  · rw [BaseNego.getNegotiatedRtpPort_fill]

/-- An answer that is not accepted for a media takes its last model, if it has a line for it. -/
theorem negotiateAnswer_of_not_accepted {line : PeerLine D} (hline : takenLine lines m = some line)
    (h : ¬Accepted env x lines m) :
    (x.nego m).negotiateAnswer (env.negotiator m) line.descriptor = x.withoutAnswer lines m := by
  unfold BaseNego.negotiateAnswer withoutAnswer
  rw [hline, Option.isSome_some, if_pos rfl]
  cases hlast : (x.nego m).listOaModel.getLast? with
  | none =>
      have hnil := List.getLast?_eq_none_iff.mp hlast
      dsimp only
      rw [hnil, List.dropLast_nil, ← hnil]
  | some last =>
      have hnone : (last.pLocalProfile.bind fun localProfile =>
          BaseNego.accept (env.negotiator m) localProfile line.descriptor false) = none := by
        cases hlocal : last.pLocalProfile with
        | none => rfl
        | some localProfile =>
            cases haccept : BaseNego.accept (env.negotiator m) localProfile line.descriptor
                false with
            | none => exact haccept
            | some model =>
                have hsome : (BaseNego.accept (env.negotiator m) localProfile line.descriptor
                    false).isSome = true := by
                  rw [haccept]
                  rfl
                exact absurd ⟨line, last, localProfile, hline, hlast, hlocal, hsome⟩ h
      dsimp only
      rw [hnone]

theorem negotiateSdp_reports {bPreview : Bool} :
    (x.negotiateSdp env lines bPreview).2 m = true ↔
      ReportsOlder env m ((lines.foldl (negotiateLine env) ⟨x, fun _ => false⟩).mediaNego.nego m) := by
  rw [← isQualityUsed_fillForQuality]
  unfold MediaNego.negotiateSdp
  dsimp only
  split <;> rfl

/-- A media that the answer is not accepted for is reported by what it has without it. -/
theorem reports_of_not_accepted {bPreview : Bool} (hstate : x.eNegoState = .offerSent)
    (h : ¬Accepted env x lines m) :
    (x.negotiateSdp env lines bPreview).2 m = true ↔
      ReportsOlder env m (x.withoutAnswer lines m) := by
  have hgiven : Given env (fun _ => false) lines x
      (lines.foldl (negotiateLine env) ⟨x, fun _ => false⟩).mediaNego :=
    foldl_negotiateLine ⟨x, fun _ => false⟩
  have hnego := hgiven.nego m
  rw [negotiateSdp_reports]
  cases hline : takenLine lines m with
  | none =>
      have hnone : takenAfter (fun _ => false) lines m = none := hline
      have hwithout : x.withoutAnswer lines m = x.nego m := by
        unfold withoutAnswer
        rw [hline]
        rfl
      rw [hnone] at hnego
      rw [hnego, hwithout]
  | some line =>
      have hsome : takenAfter (fun _ => false) lines m = some line := hline
      have hanswer : (x.nego m).negotiateSdp (env.negotiator m) .offerSent line.descriptor =
          x.withoutAnswer lines m := negotiateAnswer_of_not_accepted hline h
      rw [hsome, hstate] at hnego
      rw [hnego]
      dsimp only
      rw [hanswer]

end Answer

/-- An exchange that does not complete is taken back by `FinalizeNegotiation` if nothing of it was
accepted; and only those media are reported from an answer that it was accepted for if no other
media was negotiated before. -/
theorem finalizeNegotiation_restored (env : MediaEnvironment P X R D) :
    (∀ (x₀ : MediaNego P X R) (events : List (MediaEvent D)), Settled env x₀ →
      AllRefuse env x₀ events → Restored x₀ ((x₀.run env events).finalizeNegotiation env)) ∧
    ∀ (x : MediaNego P X R) (lines : List (Option (PeerLine D))) (bPreview : Bool),
      x.eNegoState = .offerSent →
        ((∀ m, (x.negotiateSdp env lines bPreview).2 m = true → Accepted env x lines m) ↔
          ∀ m, ¬Accepted env x lines m → ¬ReportsOlder env m (x.withoutAnswer lines m)) := by
  refine ⟨fun _ _ hsettled hrefuse => hsettled.restored hrefuse, ?_⟩
  intro x lines bPreview hstate
  constructor
  · intro h m hnot holder
    exact hnot (h m ((reports_of_not_accepted hstate hnot).mpr holder))
  · intro h m hreports
    apply Classical.byContradiction
    intro hnot
    exact h m hnot ((reports_of_not_accepted hstate hnot).mp hreports)

/-! ### Audio only -/

section Example

def phoneProfile (nDataPort : Nat) : MediaBaseProfile Unit Unit Unit where
  nDataPort := nDataPort
  nControlPort := nDataPort + 1
  nBandwidthAs := 41
  nBandwidthRs := 0
  nBandwidthRr := 0
  eDirection := .sendReceive
  nNegotiatedPayloadIndex := 0
  lstPayload := [()]
  bSupportRtcpXr := false
  objRtcpXrAttr := ()
  rest := ()

/-- A description is the port of the peer; that of port 0 cannot be parsed. -/
def phoneEnvironment : MediaEnvironment Unit Unit Unit Nat where
  eServiceType := .default
  bSessionLevelBandwidth := false
  negotiator _ :=
    { config := ⟨0, 0, 0, false⟩
      parse := fun nPort => if nPort = 0 then none else some (phoneProfile nPort)
      negotiate := fun localProfile peer _ => some (localProfile, peer, localProfile)
      quality := fun _ => .used }

def phoneRequest : SdpRequest where
  bRequested m := decide (m = .audio)
  eDirection _ := .sendReceive
  bEnforceReofferMode := false

def phoneLine (nPort : Nat) : List (Option (PeerLine Nat)) := [some ⟨.audio, nPort, true, 50000⟩]

/-- A session that answered an offer of the peer. -/
def phoneNego : MediaNego Unit Unit Unit :=
  run phoneEnvironment (new fun _ => some (phoneProfile 4000))
    [.negotiateSdp (phoneLine 50000) false, .formSdp phoneRequest [⟨.audio, 50000⟩]]

/-- A new offer of the peer that cannot be parsed, and one to which the answer cannot be. -/
def phoneEvents : List (MediaEvent Nat) :=
  [.negotiateSdp (phoneLine 0) false, .finalizeNegotiation,
    .formSdp phoneRequest [⟨.audio, 50000⟩], .negotiateSdp (phoneLine 0) false]

/-- The session after a new offer. -/
def phoneOffer : MediaNego Unit Unit Unit :=
  phoneNego.step phoneEnvironment (.formSdp phoneRequest [⟨.audio, 50000⟩])

theorem phoneNego_settled : Settled phoneEnvironment phoneNego where
  negotiated := rfl
  complete := by
    intro m
    cases m with
    | audio =>
        intro model hmodel
        rw [List.mem_singleton.mp hmodel]
        rfl
    | video => exact fun model hmodel => absurd hmodel List.not_mem_nil
    | text => exact fun model hmodel => absurd hmodel List.not_mem_nil
  filled := by
    intro m
    cases m <;> rfl
  codec := ⟨.audio, by decide⟩

theorem phoneEvents_refuse : AllRefuse phoneEnvironment phoneNego phoneEvents := by
  have hline : ∀ m line, takenLine (phoneLine 0) m = some line →
      m = .audio ∧ line.descriptor = 0 := by
    intro m line hline
    cases m with
    | audio => exact ⟨rfl, congrArg PeerLine.descriptor (Option.some.inj hline).symm⟩
    | video => cases hline
    | text => cases hline
  refine ⟨?_, trivial, ?_, ?_, trivial⟩
  · intro m line htaken
    obtain ⟨rfl, hport⟩ := hline m line htaken
    intro base _
    rw [hport]
    rfl
  · right
    intro m _
    cases m with
    | audio =>
        intro model hmodel
        rw [List.mem_singleton.mp hmodel]
        rfl
    | video => exact fun model hmodel => absurd hmodel List.not_mem_nil
    | text => exact fun model hmodel => absurd hmodel List.not_mem_nil
  · intro m line htaken
    obtain ⟨rfl, hport⟩ := hline m line htaken
    intro last hlast
    rw [hport, ← Option.some.inj hlast]
    exact ⟨rfl, rfl⟩

theorem phoneNego_restored :
    Restored phoneNego
        ((phoneNego.run phoneEnvironment phoneEvents).finalizeNegotiation phoneEnvironment) ∧
      ∀ m, (phoneOffer.negotiateSdp phoneEnvironment (phoneLine 6000) false).2 m = true →
        Accepted phoneEnvironment phoneOffer (phoneLine 6000) m := by
  refine ⟨(finalizeNegotiation_restored phoneEnvironment).1 phoneNego phoneEvents
    phoneNego_settled phoneEvents_refuse,
    ((finalizeNegotiation_restored phoneEnvironment).2 phoneOffer _ false rfl).mpr ?_⟩
  intro m hnot holder
  cases m with
  | audio => exact hnot ⟨⟨.audio, 6000, true, 50000⟩, _, _, rfl, rfl, rfl, rfl⟩
  | video => exact absurd holder.1 (by decide)
  | text => exact absurd holder.1 (by decide)

/-- A new offer that `NegotiateSdp` accepts stays although no answer is formed; and an answer that
cannot be parsed is reported as negotiated since audio was negotiated before. -/
theorem phoneNego_not_restored :
    phoneNego.eNegoState = .negotiated ∧
      ¬Restored phoneNego
        ((phoneNego.run phoneEnvironment [.negotiateSdp (phoneLine 6000) false]).finalizeNegotiation
          phoneEnvironment) ∧
      phoneOffer.eNegoState = .offerSent ∧
      (phoneOffer.negotiateSdp phoneEnvironment (phoneLine 0) false).2 .audio = true ∧
      ¬Accepted phoneEnvironment phoneOffer (phoneLine 0) .audio := by
  refine ⟨rfl, ?_, rfl, rfl, ?_⟩
  · intro h
    have hreports := h.reports .audio
    have hport : some (some 6000) = some (some 50000) :=
      congrArg (Option.map fun model : OaModel Unit Unit Unit =>
        model.pPeerProfile.map MediaBaseProfile.nDataPort) hreports
    cases hport
  · rintro ⟨line, last, localProfile, hline, hlast, hlocal, haccept⟩
    rw [← Option.some.inj hline] at haccept
    cases haccept

end Example

end MediaNego

end ImsStack.Media
