import ImsStack.Media.BaseNego

/-!
What the negotiator of one media does to its offers and answers.
-/

namespace ImsStack.Media

universe u

variable {P X R D : Type u}

namespace BaseNego

variable {negotiator : MediaNegotiator P X R D} {nego nego' : BaseNego P X R}
  {profile : MediaBaseProfile P X R} {eDirection : MediaDirection}

@[simp]
theorem setRtcpRsRr_nDataPort (config : MediaConfiguration) (bDirHold : Bool) :
    (profile.setRtcpRsRr config bDirHold).nDataPort = profile.nDataPort := by
  unfold MediaBaseProfile.setRtcpRsRr
  split <;> rfl

theorem updateReofferProfile_nDataPort (base : MediaBaseProfile P X R) :
    (updateReofferProfile negotiator base eDirection true profile).nDataPort = 0 := by
  unfold updateReofferProfile
  simp only [if_true]
  split <;> rfl

/-- What forming a description does to the negotiator: an offer is appended, an answer changes the
profile that was negotiated; and a media that is disabled is written with port 0. -/
structure Forms (eNegoState : NegoState) (nego : BaseNego P X R) (bDisable : Bool)
    (nego' : BaseNego P X R) (profile : MediaBaseProfile P X R) : Prop where
  offer : eNegoState ≠ .offerReceived →
    ∃ localProfile, nego' = nego.append ⟨some localProfile, none, none⟩
  disabled : bDisable = true → profile.nDataPort = 0

theorem forms_append {eNegoState : NegoState} {bDisable : Bool}
    {localProfile : MediaBaseProfile P X R} (h : bDisable = true → profile.nDataPort = 0) :
    Forms eNegoState nego bDisable (nego.append ⟨some localProfile, none, none⟩) profile where
  offer := fun _ => ⟨localProfile, rfl⟩
  disabled := h

theorem formOffer_forms {eType : MediaType} {bDisable : Bool}
    (h : nego.formOffer negotiator eType eDirection bDisable = some (nego', profile)) :
    Forms .idle nego bDisable nego' profile := by
  unfold formOffer at h
  split at h
  · cases h
  · split at h
    · cases h
    · obtain ⟨rfl, rfl⟩ := Prod.mk.inj (Option.some.inj h)
      apply forms_append
      rintro rfl
      unfold createLocalProfile
      simp only [if_true]
      split
      · rfl
      · rw [setRtcpRsRr_nDataPort]
        rfl

theorem formAnswer_forms {eType : MediaType} {bDisable : Bool}
    (h : nego.formAnswer eType eDirection bDisable = some (nego', profile)) :
    Forms .offerReceived nego bDisable nego' profile := by
  refine ⟨fun hstate => absurd rfl hstate, ?_⟩
  rintro rfl
  unfold formAnswer at h
  split at h
  · cases h
  · split at h
    · cases h
    · obtain ⟨negotiated, -, hprofile⟩ := Option.map_eq_some_iff.mp h
      obtain ⟨-, rfl⟩ := Prod.mk.inj hprofile
      unfold answerProfile
      simp only [if_true]
      cases eType with
      | audio => rfl
      | text => rfl
      | video =>
          dsimp only
          split
          · rfl
          · split <;> rfl

theorem formAudioReoffer_forms {bDisable bEnforce : Bool}
    (h : nego.formAudioReoffer negotiator eDirection bDisable bEnforce = some (nego', profile)) :
    Forms .negotiated nego bDisable nego' profile := by
  have hport : ∀ (base profile : MediaBaseProfile P X R), bDisable = true →
      (updateReofferProfile negotiator base eDirection bDisable profile).nDataPort = 0 := by
    rintro base profile rfl
    exact updateReofferProfile_nDataPort base
  unfold formAudioReoffer at h
  split at h
  · cases h
  · split at h
    · cases h
    · dsimp only at h
      split at h
      · obtain ⟨rfl, rfl⟩ := Prod.mk.inj (Option.some.inj h)
        exact forms_append (hport _ _)
      · split at h
        · obtain ⟨rfl, rfl⟩ := Prod.mk.inj (Option.some.inj h)
          exact forms_append (hport _ _)
        · obtain ⟨rfl, rfl⟩ := Prod.mk.inj (Option.some.inj h)
          exact forms_append (hport _ _)

theorem formVideoReoffer_forms {bDisable bEnforce : Bool}
    (h : nego.formVideoReoffer negotiator eDirection bDisable bEnforce = some (nego', profile)) :
    Forms .negotiated nego bDisable nego' profile := by
  unfold formVideoReoffer at h
  split at h
  · cases h
  · split at h
    · cases h
    · obtain ⟨source, -, hprofile⟩ := Option.map_eq_some_iff.mp h
      obtain ⟨rfl, rfl⟩ := Prod.mk.inj hprofile
      apply forms_append
      rintro rfl
      rw [setRtcpRsRr_nDataPort]
      simp only [if_true]
      split <;> rfl

theorem formTextReoffer_forms {bDisable bEnforce : Bool}
    (h : nego.formTextReoffer negotiator eDirection bDisable bEnforce = some (nego', profile)) :
    Forms .negotiated nego bDisable nego' profile := by
  unfold formTextReoffer at h
  split at h
  · cases h
  · split at h
    · cases h
    · obtain ⟨source, -, hprofile⟩ := Option.map_eq_some_iff.mp h
      obtain ⟨rfl, rfl⟩ := Prod.mk.inj hprofile
      apply forms_append
      rintro rfl
      rfl

theorem formSdp_forms {eType : MediaType} {eNegoState : NegoState} {bDisable bEnforce : Bool}
    (h : nego.formSdp negotiator eType eNegoState eDirection bDisable bEnforce =
      some (nego', profile)) : Forms eNegoState nego bDisable nego' profile := by
  cases eNegoState with
  | idle => exact formOffer_forms h
  | offerReceived => exact formAnswer_forms h
  | offerSent => cases h
  | negotiated =>
      cases eType with
      | audio => exact formAudioReoffer_forms h
      | video => exact formVideoReoffer_forms h
      | text => exact formTextReoffer_forms h

/-! ### The models that are complete -/

/-- No offer is held that was not completed. -/
def AllComplete (nego : BaseNego P X R) : Prop :=
  ∀ model ∈ nego.listOaModel, model.isAllProfileExist = true

/-- A rejected media has the payloads that asking for its quality would give it. -/
def IsFilled (nego : BaseNego P X R) : Prop := nego.fillNegotiatedPayload = nego

variable {model : OaModel P X R}

theorem getNegotiatedOaModel_append (h : model.isAllProfileExist = false) :
    (nego.append model).getNegotiatedOaModel = nego.getNegotiatedOaModel := by
  have hnot : ¬model.isAllProfileExist = true := by
    rw [h]
    exact Bool.false_ne_true
  unfold getNegotiatedOaModel append
  rw [List.filter_append, List.filter_cons_of_neg hnot]
  show (List.filter OaModel.isAllProfileExist nego.listOaModel ++ []).getLast? = _
  rw [List.append_nil]

theorem not_allComplete_append (h : model.isAllProfileExist = false) :
    ¬(nego.append model).AllComplete := by
  intro hcomplete
  have hmodel := hcomplete model (List.mem_append_right _ List.mem_cons_self)
  rw [h] at hmodel
  cases hmodel

theorem cleanup_of_allComplete (h : nego.AllComplete) :
    nego.cleanupIncompleteOaModels = nego := by
  unfold cleanupIncompleteOaModels
  cases hlast : nego.listOaModel.getLast? with
  | none => rfl
  | some last => exact if_pos (h last (List.mem_of_getLast? hlast))

theorem cleanup_append (h : model.isAllProfileExist = false) :
    (nego.append model).cleanupIncompleteOaModels = nego := by
  unfold cleanupIncompleteOaModels append
  rw [List.getLast?_append]
  show (if model.isAllProfileExist = true then _
    else { nego with listOaModel := (nego.listOaModel ++ [model]).dropLast }) = nego
  rw [h, if_neg Bool.false_ne_true, List.dropLast_concat]

theorem eq_cleanup_or (nego : BaseNego P X R) :
    nego = nego.cleanupIncompleteOaModels ∨
      ∃ model : OaModel P X R, model.isAllProfileExist = false ∧
        nego = nego.cleanupIncompleteOaModels.append model := by
  unfold cleanupIncompleteOaModels
  cases hlast : nego.listOaModel.getLast? with
  | none => exact .inl rfl
  | some last =>
      dsimp only
      cases hcomplete : last.isAllProfileExist with
      | true => exact .inl rfl
      | false =>
          right
          refine ⟨last, hcomplete, ?_⟩
          obtain ⟨init, hinit⟩ := List.getLast?_eq_some_iff.mp hlast
          unfold append
          rw [if_neg Bool.false_ne_true, hinit, List.dropLast_concat, ← hinit]

theorem updateLastComplete_concat {f : OaModel P X R → OaModel P X R}
    (hmodel : model.isAllProfileExist = false) (l : List (OaModel P X R)) :
    updateLastComplete f (l ++ [model]) = updateLastComplete f l ++ [model] := by
  induction l with
  | nil =>
      show (if ([] : List (OaModel P X R)).any OaModel.isAllProfileExist = true then _
        else if model.isAllProfileExist = true then _ else _) = _
      rw [hmodel]
      rfl
  | cons first l ih =>
      have hany : (l ++ [model]).any OaModel.isAllProfileExist =
          l.any OaModel.isAllProfileExist := by
        rw [List.any_append, List.any_cons, hmodel, List.any_nil, Bool.or_false, Bool.or_false]
      rw [List.cons_append, updateLastComplete, updateLastComplete, hany, ih]
      split
      · rfl
      · split <;> rfl

theorem isFilled_append_iff (h : model.isAllProfileExist = false) :
    (nego.append model).IsFilled ↔ nego.IsFilled := by
  unfold IsFilled fillNegotiatedPayload append
  dsimp only
  rw [updateLastComplete_concat h]
  constructor
  · intro heq
    have hlist := congrArg BaseNego.listOaModel heq
    show BaseNego.mk nego.pBaseProfile _ = nego
    rw [List.append_cancel_right hlist]
  · intro heq
    have hlist : updateLastComplete fillPayloads nego.listOaModel = nego.listOaModel :=
      congrArg BaseNego.listOaModel heq
    rw [hlist]

theorem isFilled_cleanup (h : nego.IsFilled) : nego.cleanupIncompleteOaModels.IsFilled := by
  rcases eq_cleanup_or nego with hsame | ⟨model, hmodel, happend⟩
  · rw [← hsame]
    exact h
  · rw [happend] at h
    exact (isFilled_append_iff hmodel).mp h

theorem getNegotiatedOaModel_cleanup :
    nego.cleanupIncompleteOaModels.getNegotiatedOaModel = nego.getNegotiatedOaModel := by
  rcases eq_cleanup_or nego with hsame | ⟨model, hmodel, happend⟩
  · rw [← hsame]
  · exact (getNegotiatedOaModel_append hmodel).symm.trans
      (congrArg getNegotiatedOaModel happend.symm)

theorem fillPayloads_isAllProfileExist (model : OaModel P X R) :
    (fillPayloads model).isAllProfileExist = model.isAllProfileExist := by
  unfold fillPayloads
  split
  · rename_i hlocal hnegotiated
    split
    · unfold OaModel.isAllProfileExist
      rw [hnegotiated]
      rfl
    · rfl
  · rfl

theorem filter_updateLastComplete {f : OaModel P X R → OaModel P X R}
    (hf : ∀ model, (f model).isAllProfileExist = model.isAllProfileExist)
    (l : List (OaModel P X R)) :
    ((updateLastComplete f l).filter OaModel.isAllProfileExist).getLast? =
      ((l.filter OaModel.isAllProfileExist).getLast?).map f := by
  induction l with
  | nil => rfl
  | cons model l ih =>
      unfold updateLastComplete
      cases hany : l.any OaModel.isAllProfileExist with
      | true =>
          obtain ⟨found, hmem, hfound⟩ := List.any_eq_true.mp hany
          have hne : l.filter OaModel.isAllProfileExist ≠ [] :=
            List.ne_nil_of_mem (List.mem_filter.mpr ⟨hmem, hfound⟩)
          rw [if_pos rfl]
          cases hmodel : model.isAllProfileExist with
          | false =>
              have hnot : ¬model.isAllProfileExist = true := by
                rw [hmodel]
                exact Bool.false_ne_true
              rw [List.filter_cons_of_neg hnot, List.filter_cons_of_neg hnot]
              exact ih
          | true =>
              rw [List.filter_cons_of_pos hmodel, List.filter_cons_of_pos hmodel,
                List.getLast?_cons, List.getLast?_cons, ih]
              cases hlast : (l.filter OaModel.isAllProfileExist).getLast? with
              | none => exact absurd (List.getLast?_eq_none_iff.mp hlast) hne
              | some last => rfl
      | false =>
          have hnil : l.filter OaModel.isAllProfileExist = [] := by
            apply List.filter_eq_nil_iff.mpr
            intro found hmem hfound
            rw [List.any_eq_true.mpr ⟨found, hmem, hfound⟩] at hany
            cases hany
          rw [if_neg Bool.false_ne_true]
          cases hmodel : model.isAllProfileExist with
          | false =>
              have hnot : ¬model.isAllProfileExist = true := by
                rw [hmodel]
                exact Bool.false_ne_true
              rw [if_neg Bool.false_ne_true, List.filter_cons_of_neg hnot, hnil]
              rfl
          | true =>
              have hpos : (f model).isAllProfileExist = true := (hf model).trans hmodel
              rw [if_pos rfl, List.filter_cons_of_pos hpos, List.filter_cons_of_pos hmodel, hnil]
              rfl

theorem fillPayloads_nDataPort (model : OaModel P X R) :
    (fillPayloads model).pNegotiatedProfile.map MediaBaseProfile.nDataPort =
      model.pNegotiatedProfile.map MediaBaseProfile.nDataPort := by
  obtain ⟨localProfile, peer, negotiated⟩ := model
  cases localProfile with
  | none => rfl
  | some localProfile =>
      cases negotiated with
      | none => rfl
      | some negotiated =>
          unfold fillPayloads
          dsimp only
          split <;> rfl

theorem getNegotiatedRtpPort_fill :
    nego.fillNegotiatedPayload.getNegotiatedRtpPort = nego.getNegotiatedRtpPort := by
  have hmodel : nego.fillNegotiatedPayload.getNegotiatedOaModel =
      nego.getNegotiatedOaModel.map fillPayloads :=
    filter_updateLastComplete fillPayloads_isAllProfileExist nego.listOaModel
  have hport : ∀ nego : BaseNego P X R, nego.getNegotiatedRtpPort =
      (((nego.getNegotiatedOaModel.bind OaModel.pNegotiatedProfile).map
        MediaBaseProfile.nDataPort).map Int.ofNat).getD (-1) := by
    intro nego
    unfold getNegotiatedRtpPort
    cases nego.getNegotiatedOaModel.bind OaModel.pNegotiatedProfile <;> rfl
  rw [hport, hport, hmodel]
  cases nego.getNegotiatedOaModel with
  | none => rfl
  | some model =>
      show (((fillPayloads model).pNegotiatedProfile.map MediaBaseProfile.nDataPort).map
        Int.ofNat).getD (-1) = _
      rw [fillPayloads_nDataPort]
      rfl

end BaseNego

end ImsStack.Media
