import ImsStack.Conference.KnownUsers

/-!
What one event of a `MergeController` keeps: each function leads from a sound controller to a sound
one that knows the same users, if the function that performs the next operation does.
-/

namespace ImsStack.Conference.MergeController

open Controller

section operations

variable {configuration : ConferenceConfiguration} {env : Environment}
  {doNext : Controller → Option Controller}
  (hdo : ∀ c : Controller, c.Sound → c.Reaches (doNext c))
  {c : Controller} (h : c.Sound)

include hdo h

theorem reaches_completeCurrent {nOperationType : OperationType} {pConfUser : Option Nat}
    {completed : Bool × Controller}
    (hcompleted : completeCurrentAndDoNextOperation doNext nOperationType pConfUser c =
      some completed) : c.Follows completed.2 := by
  unfold completeCurrentAndDoNextOperation at hcompleted
  split at hcompleted
  · cases hcompleted
    exact .refl h
  · split at hcompleted
    · exact absurd hcompleted.symm (Option.some_ne_none _)
    · cases hcompleted
      exact .refl h
    · obtain ⟨later, hlater, rfl⟩ := Option.map_eq_some_iff.mp hcompleted
      have hremoved := h.removeActiveOperation
      exact hremoved.trans (hdo _ hremoved.sound later hlater)

theorem reaches_complete (nOperationType : OperationType) (pConfUser : Option Nat) :
    c.Reaches (complete doNext nOperationType pConfUser c) := by
  intro later hlater
  obtain ⟨completed, hcompleted, rfl⟩ := Option.map_eq_some_iff.mp hlater
  exact reaches_completeCurrent hdo h hcompleted

theorem reaches_putStandAlone (nType : OperationType) :
    c.Reaches (putStandAlone doNext nType c) := by
  have hput : c.Follows (c.put { nType }) := h.put (names_of_nil rfl)
  unfold putStandAlone
  split
  · have hcleared : c.Follows { c.put { nType } with bNeedToStartOperationSet := false } :=
      hput.trans (hput.sound.follows_of_same rfl rfl rfl rfl rfl)
    exact hcleared.andThen (hdo _ hcleared.sound)
  · exact hput.reaches

theorem reaches_setAddingOperationSetCompleted :
    c.Reaches (setAddingOperationSetCompleted doNext c) := by
  unfold setAddingOperationSetCompleted
  split
  · have hcleared : c.Follows { c with bNeedToStartOperationSet := false } :=
      h.follows_of_same rfl rfl rfl rfl rfl
    exact hcleared.andThen (hdo _ hcleared.sound)
  · exact h.reaches_self

theorem reaches_sendClosed : c.Reaches (sendClosed doNext c) := by
  unfold sendClosed
  split
  · exact reaches_putStandAlone hdo h .destroyController
  · apply Follows.reaches
    exact h.follows_of_same rfl rfl rfl rfl rfl

/-! ### Recovery -/

theorem reaches_recoverUser (pConfUser : Nat) : c.Reaches (recoverUser doNext pConfUser c) := by
  have hidle : c.Follows { c.clear with nState := .idle } :=
    h.clear.trans (h.clear.sound.follows_of_same rfl rfl rfl rfl rfl)
  unfold recoverUser
  split
  · exact reaches_none
  · split_ifs
    · exact reaches_complete hdo h _ _
    · exact hidle.reaches
    · have hstatus := h.setStatus pConfUser .disconnected
      exact hstatus.andThen (reaches_complete hdo hstatus.sound _ _)
    · exact hidle.reaches

theorem reaches_recoverOnReferring (operation : ConferenceOperation) :
    c.Reaches (recoverOnReferring env doNext operation c) := by
  unfold recoverOnReferring
  split
  · split
    · exact reaches_none
    · exact reaches_recoverUser hdo h _
  · exact h.clear.reaches

theorem reaches_recover : c.Reaches (recover env doNext c) := by
  unfold recover
  split
  · exact h.reaches_self
  · split
    · split
      · exact h.reaches_self
      · exact h.clear.reaches
    · exact reaches_recoverOnReferring hdo h _
    · exact reaches_recoverOnReferring hdo h _
    · exact h.reaches_self

/-! ### Calls -/

theorem reaches_updateUserStateByCallTerminated (nCallKey : Nat) :
    c.Reaches (updateUserStateByCallTerminated env doNext nCallKey c) := by
  have hend {later : Controller} (hlater : c.Follows later) :
      c.Reaches (if later.getConnectedParticipantSize true = 0 then
        putStandAlone doNext .terminateConference later else some later) := by
    split
    · exact hlater.andThen (reaches_putStandAlone hdo hlater.sound _)
    · exact hlater.reaches
  unfold updateUserStateByCallTerminated
  dsimp only
  split
  · exact hend (.refl h)
  · next member _ =>
    have hstatus := h.setStatus member.pConfUser .disconnected
    exact hend (hstatus.trans hstatus.sound.notifyUsersInfo)

theorem reaches_completeIndividualCall (nCallKey : Nat) :
    c.Reaches (completeIndividualCall env doNext nCallKey c) := by
  unfold completeIndividualCall
  split
  · exact h.reaches_self
  · split_ifs
    · exact reaches_complete hdo h _ _
    · exact reaches_recover hdo h
    · exact h.reaches_self

theorem reaches_onIndividualCallTerminated (nCallKey : Nat) :
    c.Reaches (onIndividualCallTerminated configuration env doNext nCallKey c) := by
  have hstarted := h.checkNStartFinalSipfragWaitTimer false true
  refine hstarted.andThen ((reaches_completeIndividualCall hdo hstarted.sound _).bind ?_)
  intro later hlater
  split
  · exact reaches_updateUserStateByCallTerminated hdo hlater _
  · exact hlater.reaches_self

theorem reaches_unsubscribeLater : c.Reaches (unsubscribeLater doNext c) := by
  unfold unsubscribeLater
  split
  · have hdelay : c.Follows { c with nNextDelay := 3000 } :=
      h.follows_of_same rfl rfl rfl rfl rfl
    exact hdelay.andThen (reaches_putStandAlone hdo hdelay.sound _)
  · exact h.reaches_self

theorem reaches_onCallUpdated (nType : CallUpdate) (nCallKey : Nat) :
    c.Reaches (onCallUpdated configuration env doNext nType nCallKey c) := by
  unfold onCallUpdated
  split
  · cases nType with
    | started => exact h.reaches_self
    | terminated => exact reaches_onIndividualCallTerminated hdo h _
  · cases nType with
    | started => exact reaches_complete hdo h _ _
    | terminated =>
      exact ((reaches_recover hdo h).bind fun later hlater =>
        reaches_unsubscribeLater hdo hlater).bind fun later hlater =>
          reaches_sendClosed hdo hlater

theorem reaches_terminateCall (nCallKey : Nat) (nOperationType : OperationType) :
    c.Reaches (terminateCall configuration env doNext nCallKey nOperationType c) := by
  refine Reaches.bind ?_ fun later hlater => reaches_complete hdo hlater _ _
  split
  · exact reaches_onCallUpdated hdo h _ _
  · exact h.reaches_self

theorem reaches_startConferenceCall :
    c.Reaches (startConferenceCall configuration env doNext c) := by
  unfold startConferenceCall
  split
  · exact h.reaches_self
  · exact reaches_onCallUpdated hdo h _ _

/-! ### The subscription -/

theorem reaches_startSubscription : c.Reaches (startSubscription env doNext c) := by
  unfold startSubscription
  split
  · apply Follows.reaches
    exact h.follows_of_same rfl rfl rfl rfl rfl
  · exact reaches_recover hdo h

theorem reaches_subscribeConference : c.Reaches (subscribeConference env doNext c) := by
  unfold subscribeConference
  split
  · exact h.reaches_self
  · have hidle : c.Follows { c with pSubscription := some .idle } :=
      h.follows_of_same rfl rfl rfl rfl rfl
    exact hidle.andThen (reaches_startSubscription hdo hidle.sound)

/-! ### The references -/

theorem reaches_sendReference (objUsers : List Nat) :
    c.Reaches (sendReference env doNext objUsers c) := by
  unfold sendReference
  split
  · next hall =>
    have hcreated (nType : ReferenceType) : c.Follows (c.createReference nType objUsers) :=
      h.createReference fun pConfUser hmem =>
        List.contains_iff_mem.mp (List.all_eq_true.mp hall pConfUser hmem)
    split
    · exact (hcreated .invite).reaches
    · exact (hcreated .invite).andThen (reaches_recover hdo (hcreated .invite).sound)
    · exact (hcreated .invalid).andThen (reaches_recover hdo (hcreated .invalid).sound)
  · exact reaches_none

theorem reaches_inviteParticipants (objUsers : List Nat) :
    c.Reaches (inviteParticipants configuration env doNext objUsers c) := by
  have hcleared := h.clearOngoingReferences env.getResponseCode
  have hstopped := hcleared.trans hcleared.sound.stopFinalSipfragWaitTimer
  unfold inviteParticipants
  split
  · exact hcleared.reaches
  · split
    · exact reaches_none
    · exact hstopped.andThen (reaches_sendReference hdo hstopped.sound _)
  · exact hcleared.andThen (reaches_sendReference hdo hcleared.sound _)

omit hdo in
theorem reaches_removeParticipants (objUsers : List Nat) :
    c.Reaches (removeParticipants objUsers c) := by
  induction objUsers generalizing c with
  | nil => exact h.reaches_self
  | cons pTemp objUsers ih =>
    unfold removeParticipants
    split
    · next hmem =>
      have hcreated : c.Follows (c.createReference .bye [pTemp]) :=
        h.createReference fun pConfUser huser => by
          rw [List.mem_singleton.mp huser]
          exact List.contains_iff_mem.mp hmem
      exact hcreated.andThen (ih hcreated.sound)
    · exact reaches_none

/-! ### The next operation -/

theorem reaches_notifyCmdResult : c.Reaches (notifyCmdResult doNext c) := by
  have hnotified : c.Follows (notifyResult c) := by
    unfold notifyResult
    split
    · exact h.notifyUsersInfo
    · exact h.notifyUsersInfo
    · exact h.notifyUsersInfo
    · exact .refl h
  intro later hlater
  obtain ⟨completed, hcompleted, rfl⟩ := Option.map_eq_some_iff.mp hlater
  have hfollows := hnotified.trans (reaches_completeCurrent hdo hnotified.sound hcompleted)
  split
  · exact hfollows.trans (hfollows.sound.follows_of_same rfl rfl rfl rfl rfl)
  · exact hfollows

theorem reaches_checkConnected (objUsers : List Nat) :
    c.Reaches (checkConnected configuration doNext objUsers c) := by
  unfold checkConnected
  split
  · split
    · exact reaches_none
    · unfold checkUserEntityConnected
      split
      · exact reaches_none
      · split
        · exact reaches_complete hdo h _ _
        · exact h.reaches_self
  · exact h.reaches_self

omit hdo in
theorem follows_stopSubscription : c.Follows (stopSubscription c) := by
  unfold stopSubscription
  split
  · exact h.follows_of_same rfl rfl rfl rfl rfl
  · exact .refl h

theorem reaches_performOperation (operation : ConferenceOperation) :
    c.Reaches (performOperation configuration env doNext operation c) := by
  unfold performOperation
  split
  · exact reaches_startConferenceCall hdo h
  · exact reaches_subscribeConference hdo h
  · exact (follows_stopSubscription h).reaches
  · exact reaches_inviteParticipants hdo h _
  · exact reaches_removeParticipants h _
  · exact reaches_checkConnected hdo h _
  · exact reaches_notifyCmdResult hdo h
  · exact reaches_terminateCall hdo h _ _
  · exact reaches_terminateCall hdo h _ _
  · exact reaches_sendClosed hdo h
  · exact reaches_complete hdo h _ _

theorem reaches_doNextStep : c.Reaches (doNextStep configuration env doNext c) := by
  unfold doNextStep
  split
  · exact h.reaches_self
  · split
    · apply Follows.reaches
      exact h.follows_of_same rfl rfl rfl rfl rfl
    · exact reaches_performOperation hdo h _

end operations

theorem reaches_doNextOperation (configuration : ConferenceConfiguration) (env : Environment)
    (nOperations : Nat) (c : Controller) (h : c.Sound) :
    c.Reaches (doNextOperation configuration env nOperations c) := by
  induction nOperations generalizing c with
  | zero => exact h.reaches_self
  | succ nOperations ih => exact reaches_doNextStep ih h

section commands

variable {configuration : ConferenceConfiguration} {env : Environment}
  {doNext : Controller → Option Controller}
  (hdo : ∀ c : Controller, c.Sound → c.Reaches (doNext c))
  {c : Controller} (h : c.Sound)

/-! ### Commands -/

theorem names_of_members {operation : ConferenceOperation}
    (hmembers : ∀ pConfUser ∈ operation.objConfUsers, pConfUser ∈ c.users) : c.Names operation :=
  fun _ pConfUser hmem => List.mem_append_left _ (hmembers pConfUser hmem)

theorem objConfUsers_mergeOperations {bCreated : Bool} {objMembers : List Member}
    {operation : ConferenceOperation}
    (hmem : operation ∈ mergeOperations configuration bCreated objMembers) :
    ∀ pConfUser ∈ operation.objConfUsers, pConfUser ∈ objMembers.map Member.pConfUser := by
  intro pConfUser huser
  simp only [mergeOperations, mergeUserOperations, List.mem_append, List.mem_flatMap,
    List.mem_ite_nil_right, List.mem_ite_nil_left, List.mem_cons,
    List.not_mem_nil, or_false] at hmem
  grind

theorem objConfUsers_joinOperations {objMembers : List Member} {operation : ConferenceOperation}
    (hmem : operation ∈ joinOperations configuration objMembers) :
    ∀ pConfUser ∈ operation.objConfUsers, pConfUser ∈ objMembers.map Member.pConfUser := by
  intro pConfUser huser
  unfold joinOperations at hmem
  rcases List.mem_append.mp hmem with hmem | hmem
  · split at hmem
    · exact absurd hmem List.not_mem_nil
    · obtain ⟨member, hmember, rfl⟩ := List.mem_map.mp hmem
      rw [List.mem_singleton.mp huser]
      exact List.mem_map_of_mem hmember
    · rw [List.mem_singleton.mp hmem] at huser
      exact huser
  · split at hmem
    · exact absurd hmem List.not_mem_nil
    · rw [List.mem_singleton.mp hmem] at huser
      exact absurd huser List.not_mem_nil

include h

/-- The users are added, and the operations for those from the start index on are put. -/
theorem follows_added {objUsers : List ConfUser} {bReOrder : Bool} {nState : ControllerState}
    {operations : List ConferenceOperation}
    (hoperations : ∀ operation ∈ operations, ∀ pConfUser ∈ operation.objConfUsers,
      pConfUser ∈ ((c.addUserToParticipantList env.objCalls env.getCallKey objUsers
        bReOrder).1.objParticipants.drop (c.addUserToParticipantList env.objCalls env.getCallKey
          objUsers bReOrder).2).map Member.pConfUser) :
    c.Follows ({ (c.addUserToParticipantList env.objCalls env.getCallKey objUsers bReOrder).1 with
      nState }.putAll operations) := by
  have hadded : c.Follows (c.addUserToParticipantList env.objCalls env.getCallKey objUsers
      bReOrder).1 := h.addUserToParticipantList env.distinct env.getCallKey objUsers bReOrder
  generalize c.addUserToParticipantList env.objCalls env.getCallKey objUsers bReOrder = added
    at hoperations hadded ⊢
  have hstate : added.1.Follows { added.1 with nState } :=
    hadded.sound.follows_of_same rfl rfl rfl rfl rfl
  refine hadded.trans (hstate.trans (hstate.sound.putAll operations fun operation hmem =>
    names_of_members fun pConfUser huser => ?_))
  obtain ⟨member, hmember, rfl⟩ := List.mem_map.mp (hoperations operation hmem pConfUser huser)
  exact List.mem_map_of_mem (List.mem_of_mem_drop hmember)

theorem follows_prepareMerge (objUsers : List ConfUser) :
    c.Follows (prepareMerge configuration env objUsers c) :=
  follows_added h fun _ hmem => objConfUsers_mergeOperations hmem

theorem follows_prepareJoin (objUsers : List ConfUser) :
    c.Follows (prepareJoin configuration env objUsers c) :=
  follows_added h fun _ hmem => objConfUsers_joinOperations hmem

include hdo

theorem reaches_processMergeWithoutRefer (nUsers : Nat) :
    c.Reaches (processMergeWithoutRefer doNext nUsers c) := by
  unfold processMergeWithoutRefer
  split
  · have hstate : c.Follows { c with nState := .merging, nNextAddress := c.nNextAddress + nUsers } :=
      h.follows_of_users rfl rfl (Nat.le_add_right _ _) h.queued h.referred
    have hput := hstate.trans (hstate.sound.putAll
      [{ nType := .createConferenceCall, objConfUsers := List.range' c.nNextAddress nUsers },
        { nType := .notifyResultToUi }] (by
      intro operation hmem
      rcases List.mem_cons.mp hmem with rfl | hmem
      · exact fun htype => absurd rfl htype
      · rw [List.mem_singleton.mp hmem]
        exact names_of_nil rfl))
    exact hput.andThen (reaches_setAddingOperationSetCompleted hdo hput.sound)
  · apply Follows.reaches
    exact h.follows_of_same rfl rfl rfl rfl rfl

theorem reaches_processMerge (objUsers : List ConfUser) :
    c.Reaches (processMerge configuration env doNext objUsers c) := by
  unfold processMerge
  split_ifs
  · exact h.reaches_self
  · exact reaches_sendClosed hdo h
  · have hadded : c.Follows _ :=
      h.addUserToParticipantList env.distinct env.getCallKey objUsers true
    exact hadded.andThen (reaches_processMergeWithoutRefer hdo hadded.sound _)
  · have hprepared : c.Follows (prepareMerge configuration env objUsers c) :=
      follows_prepareMerge h objUsers
    exact hprepared.andThen (reaches_setAddingOperationSetCompleted hdo hprepared.sound)

theorem reaches_processJoin (objUsers : List ConfUser) :
    c.Reaches (processJoin configuration env doNext objUsers c) := by
  unfold processJoin
  split
  · have hprepared : c.Follows (prepareJoin configuration env objUsers c) :=
      follows_prepareJoin h objUsers
    exact hprepared.andThen (reaches_setAddingOperationSetCompleted hdo hprepared.sound)
  · have hadded : c.Follows _ :=
      h.addUserToParticipantList env.distinct env.getCallKey objUsers false
    exact (hadded.trans hadded.sound.notifyUsersInfo).reaches

theorem reaches_processDrop (nConnectionIds : List Nat) :
    c.Reaches (processDrop doNext nConnectionIds c) := by
  unfold processDrop
  split
  · exact reaches_none
  · split
    · exact h.notifyUsersInfo.reaches
    · next member hfound =>
      split
      · have hstate : c.Follows { c with nState := .dropping } :=
          h.follows_of_same rfl rfl rfl rfl rfl
        have hput := hstate.trans (hstate.sound.putAll
          [{ nType := .referBye, objConfUsers := [member.pConfUser] },
            { nType := .notifyResultToUi }] (by
          intro operation hmem
          rcases List.mem_cons.mp hmem with rfl | hmem
          · refine names_of_members fun pConfUser huser => ?_
            rw [List.mem_singleton.mp huser]
            exact List.mem_map_of_mem (List.mem_of_find?_eq_some hfound)
          · rw [List.mem_singleton.mp hmem]
            exact names_of_nil rfl))
        exact hput.andThen (reaches_setAddingOperationSetCompleted hdo hput.sound)
      · exact h.notifyUsersInfo.reaches

theorem reaches_processSubscribeOnParticipant :
    c.Reaches (processSubscribeOnParticipant configuration doNext c) := by
  unfold processSubscribeOnParticipant
  split
  · have hput : c.Follows (c.put { nType := .createConferenceCall }) := h.put (names_of_nil rfl)
    exact hput.andThen (reaches_putStandAlone hdo hput.sound _)
  · exact h.reaches_self

/-! ### The subscription -/

theorem reaches_onNotifyReceived : c.Reaches (onNotifyReceived configuration doNext c) := by
  unfold onNotifyReceived
  apply Reaches.bind
  · split
    · exact reaches_complete hdo h _ _
    · exact h.reaches_self
  · intro later hlater
    split
    · exact hlater.reaches_self
    · apply Reaches.bind
      · split
        · exact reaches_putStandAlone hdo hlater _
        · exact hlater.reaches_self
      · exact fun last hlast =>
          hlast.notifyUsersInfo.andThen (reaches_complete hdo hlast.notifyUsersInfo.sound _ _)

theorem reaches_onSubscriptionFailed : c.Reaches (onSubscriptionFailed doNext c) :=
  (reaches_complete hdo h _ _).map fun _ hlater => hlater.follows_of_same rfl rfl rfl rfl rfl

omit hdo in
theorem follows_subscription (pSubscription : Option SubscriptionState) :
    c.Follows { c with pSubscription } :=
  h.follows_of_same rfl rfl rfl rfl rfl

theorem reaches_subscriptionStarted : c.Reaches (subscriptionStarted configuration doNext c) := by
  unfold subscriptionStarted
  split
  · have hactive := follows_subscription h (some .active)
    split
    · exact hactive.reaches
    · exact hactive.andThen (reaches_complete hdo hactive.sound _ _)
  · have hidle := follows_subscription h (some .idle)
    exact hidle.andThen (reaches_complete hdo hidle.sound _ _)
  · exact h.reaches_self

theorem reaches_subscriptionStartFailed (bTriedAgain : Bool) :
    c.Reaches (subscriptionStartFailed doNext bTriedAgain c) := by
  unfold subscriptionStartFailed
  split
  · exact reaches_complete hdo h _ _
  · split
    · exact h.reaches_self
    · exact reaches_onSubscriptionFailed hdo h
  · exact h.reaches_self

theorem reaches_subscriptionTerminated : c.Reaches (subscriptionTerminated doNext c) := by
  unfold subscriptionTerminated
  split
  · have hidle := follows_subscription h (some .idle)
    exact (hidle.andThen (reaches_complete hdo hidle.sound _ _)).bind fun later hlater =>
      reaches_putStandAlone hdo hlater _
  · exact h.reaches_self

theorem reaches_subscriptionNotify (document : Option Platform.DomNode) :
    c.Reaches (subscriptionNotify configuration env doNext document c) := by
  unfold subscriptionNotify
  split
  · exact reaches_none
  · next updated hupdate =>
    have hlist := h.setParticipantList updated.list (by
      have hle := length_le_update hupdate
      rwa [participantList, List.length_map] at hle)
    refine hlist.andThen ?_
    dsimp only
    split
    · exact reaches_onNotifyReceived hdo hlist.sound
    · exact reaches_onNotifyReceived hdo hlist.sound
    · split
      · exact (follows_subscription hlist.sound _).reaches
      · exact reaches_onSubscriptionFailed hdo hlist.sound
    · exact hlist.sound.reaches_self
    · exact hlist.sound.reaches_self

/-! ### The references -/

omit hdo in
theorem follows_updateUserStatusByReferResult (pUser : Option Member) (nType : ReferenceType)
    (nStatusCode : Int) : c.Follows (updateUserStatusByReferResult pUser nType nStatusCode c) := by
  unfold updateUserStatusByReferResult
  split
  · exact .refl h
  · split_ifs
    · exact h.setStatus _ _
    · exact .refl h
    · split
      · exact h.setStatus _ _
      · exact h.setStatus _ _
      · exact .refl h
    · exact .refl h

theorem reaches_onReferenceStarted (reference : ConferenceReference) :
    c.Reaches (onReferenceStarted configuration doNext reference c) := by
  unfold onReferenceStarted
  dsimp only
  split
  · have hstatus := follows_updateUserStatusByReferResult h (c.getConfUser reference.address)
      .bye 200
    exact hstatus.andThen (reaches_complete hdo hstatus.sound _ _)
  · split
    · exact reaches_complete hdo h _ _
    · exact h.reaches_self
  · exact h.reaches_self

omit hdo in
theorem follows_removeRefused (piConfRef : Nat) : c.Follows (removeRefused piConfRef c) := by
  unfold removeRefused
  split
  · exact .refl h
  · next member hfound =>
    have hreference := List.find?_some hfound
    refine h.removeUser (List.mem_of_find?_eq_some hfound) ?_
    rw [eq_of_beq hreference]
    rfl

theorem reaches_onReferenceStartFailed (reference : ConferenceReference) :
    c.Reaches (onReferenceStartFailed env doNext reference c) := by
  have hstopped := h.stopFinalSipfragWaitTimer
  unfold onReferenceStartFailed
  dsimp only
  split
  · have hcleared := hstopped.trans (hstopped.sound.notifyUsersInfo.trans
      hstopped.sound.notifyUsersInfo.sound.clear)
    have hidle : c.Follows { c.stopFinalSipfragWaitTimer.notifyUsersInfo.clear with
        nState := .idle } :=
      hcleared.trans (hcleared.sound.follows_of_same rfl rfl rfl rfl rfl)
    exact (hidle.trans (hidle.sound.removeReference _)).reaches
  · refine (hstopped.andThen (reaches_recover hdo hstopped.sound)).map fun later hlater => ?_
    have hremoved := follows_removeRefused hlater reference.address
    exact hremoved.trans (hremoved.sound.removeReference _)

theorem reaches_updateInvite (pTempUser : Option Member) (nSipFragCode : Int) :
    c.Reaches (updateInvite env doNext pTempUser nSipFragCode c) := by
  have hstopped := h.stopFinalSipfragWaitTimer
  unfold updateInvite
  split_ifs
  · exact hstopped.andThen (reaches_complete hdo hstopped.sound _ _)
  · exact hstopped.andThen (reaches_recover hdo hstopped.sound)
  · exact (h.checkNStartFinalSipfragWaitTimer _ _).reaches
  · exact h.reaches_self

theorem reaches_onReferenceUpdated (reference : ConferenceReference) (nSipFragCode : Int)
    (bTerminated : Bool) :
    c.Reaches (onReferenceUpdated env doNext reference nSipFragCode bTerminated c) := by
  have hstatus := follows_updateUserStatusByReferResult h (c.getConfUser reference.address)
    reference.nType nSipFragCode
  unfold onReferenceUpdated
  apply Reaches.map
  · split
    · exact hstatus.andThen (reaches_updateInvite hdo hstatus.sound _ _)
    · exact hstatus.andThen (reaches_complete hdo hstatus.sound _ _)
  · intro later hlater
    split
    · exact hlater.removeReference _
    · exact .refl hlater

theorem reaches_delayedOperationTimerExpired :
    c.Reaches (delayedOperationTimerExpired doNext c) := by
  unfold delayedOperationTimerExpired
  split
  · exact reaches_none
  · next operation operations hqueue =>
    have hdue : c.Follows { c with
        bDelayedOperationTimer := false
        objOperationQueue := { operation with nDelayMillisec := 0 } :: operations } := by
      refine h.follows_of_users rfl rfl (Nat.le_refl _) ?_ h.referred
      intro other hmem htype
      rcases List.mem_cons.mp hmem with rfl | hmem
      · exact h.queued operation (hqueue ▸ List.mem_cons_self) htype
      · exact h.queued other (hqueue ▸ List.mem_cons_of_mem _ hmem) htype
    exact hdue.andThen (hdo _ hdue.sound)

omit hdo h in
theorem reaches_handleReference {piConfRef : Nat}
    {handle : ConferenceReference → Controller → Option Controller}
    (hhandle : ∀ reference, c.Reaches (handle reference c)) :
    c.Reaches (handleReference piConfRef handle c) := by
  unfold handleReference
  split
  · exact reaches_none
  · exact hhandle _

end commands

/-- An event leads from a sound controller to a sound one that knows the same users. -/
theorem reaches_handleEvent (configuration : ConferenceConfiguration) (e : ConferenceEvent)
    {c : Controller} (h : c.Sound) : c.Reaches (handleEvent configuration e c) := by
  obtain ⟨env, nOperations, input⟩ := e
  have hdo := reaches_doNextOperation configuration env nOperations
  cases input with
  | merge objUsers => exact reaches_processMerge hdo h objUsers
  | add objUsers => exact reaches_processJoin hdo h objUsers
  | remove nConnectionIds => exact reaches_processDrop hdo h nConnectionIds
  | joined => exact reaches_processSubscribeOnParticipant hdo h
  | callUpdated nType nCallKey => exact reaches_onCallUpdated hdo h nType nCallKey
  | subscriptionStarted => exact reaches_subscriptionStarted hdo h
  | subscriptionStartFailed bTriedAgain => exact reaches_subscriptionStartFailed hdo h bTriedAgain
  | subscriptionTerminated => exact reaches_subscriptionTerminated hdo h
  | subscriptionNotify document => exact reaches_subscriptionNotify hdo h document
  | referenceStarted piConfRef =>
    exact reaches_handleReference fun reference => reaches_onReferenceStarted hdo h reference
  | referenceStartFailed piConfRef =>
    exact reaches_handleReference fun reference =>
      reaches_onReferenceStartFailed hdo h reference
  | referenceUpdated piConfRef nSipFragCode bTerminated =>
    exact reaches_handleReference fun reference =>
      reaches_onReferenceUpdated hdo h reference nSipFragCode bTerminated
  | finalSipfragWaitTimerExpired =>
    unfold handleEvent
    dsimp only
    split
    · have hstopped : c.Follows { c with bFinalSipfragWaitTimer := false } :=
        h.follows_of_same rfl rfl rfl rfl rfl
      exact hstopped.andThen (reaches_recover hdo hstopped.sound)
    · exact reaches_none
  | delayedOperationTimerExpired =>
    unfold handleEvent
    dsimp only
    split
    · exact reaches_delayedOperationTimerExpired hdo h
    · exact reaches_none

end ImsStack.Conference.MergeController
