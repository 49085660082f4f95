import ImsStack.SipCore.RemoteTarget

/-!
The route set of an INVITE dialog over a whole run: where it comes from, and when a
message changes it.
-/

namespace ImsStack.SipCore

open TransitionSystem
open ImsStack.Platform.AString (Chars)

/-- The routes that a dialog learns from a message. -/
def SipMessage.routes (msg : SipMessage) : List Chars :=
  if msg.isRequest then msg.recordRoutes else msg.recordRoutes.reverse

namespace RoutedDialog

variable {d : RoutedDialog} {msg : SipMessage}

theorem addPendingRemoteTarget_routeSet :
    (d.addPendingRemoteTarget msg).routeSet = d.routeSet := by
  simp only [addPendingRemoteTarget]
  split_ifs
  · rfl
  · rfl
  · split <;> rfl

@[simp] theorem updateContact_routeSet : (d.updateContact msg).routeSet = d.routeSet := by
  simp only [updateContact, removePendingRemoteTarget, updateAndRemovePendingRemoteTarget]
  repeat' split
  all_goals first | rfl | exact addPendingRemoteTarget_routeSet

/-- An empty route set becomes that of the message, if it is a target refresh. -/
theorem createRouteSet_routeSet (hempty : d.routeSet = []) :
    (d.createRouteSet msg).routeSet =
      if msg.isTargetRefreshMessage then msg.routes else [] := by
  simp only [createRouteSet, insertRecordRoutes]
  split_ifs <;> simp_all [SipMessage.routes]

theorem isTargetRefreshMessage_of_isInviteSuccess (hsuccess : msg.isInviteSuccess = true) :
    msg.isTargetRefreshMessage = true := by
  simp only [SipMessage.isInviteSuccess, Bool.and_eq_true, beq_iff_eq, Bool.not_eq_true']
    at hsuccess
  simp [SipMessage.isTargetRefreshMessage, SipMessage.hasRefreshMethod, hsuccess]

/-- A target refresh replaces the route set if it is empty, if it is preloaded, and if the
refresh is the success response to the INVITE. -/
theorem learnRouteSet_routeSet :
    (d.learnRouteSet msg).routeSet =
      if msg.isTargetRefreshMessage ∧
          (d.routeSet = [] ∨ d.preloadedSet = true ∨ msg.isInviteSuccess = true) then
        msg.routes
      else d.routeSet := by
  by_cases hempty : d.routeSet = []
  · simp only [learnRouteSet, if_pos hempty, createRouteSet_routeSet hempty]
    split_ifs <;> simp_all
  · simp only [learnRouteSet, if_neg hempty]
    cases hsuccess : msg.isInviteSuccess with
    | true =>
        have hrefresh := isTargetRefreshMessage_of_isInviteSuccess hsuccess
        have hclear : ({ d with preloadedSet := false }.clearRouteSet).routeSet = [] := rfl
        simp [createRouteSet_routeSet hclear, hrefresh]
    | false =>
        have hclear : d.clearRouteSet.routeSet = [] := rfl
        simp only [updateRouteSet, Bool.false_eq_true, ↓reduceIte]
        split_ifs <;> simp_all [createRouteSet_routeSet hclear]

theorem learnRouteSet_routeSet_eq_iff :
    (d.learnRouteSet msg).routeSet = d.routeSet ↔
      (msg.isTargetRefreshMessage = true →
        d.routeSet = [] ∨ d.preloadedSet = true ∨ msg.isInviteSuccess = true →
        d.routeSet = msg.routes) := by
  rw [learnRouteSet_routeSet]
  split_ifs with h
  · constructor
    · intro heq _ _
      exact heq.symm
    · intro heq
      exact (heq h.1 h.2).symm
  · constructor
    · intro _ hrefresh hcond
      exact absurd ⟨hrefresh, hcond⟩ h
    · intro _
      rfl

theorem deliver_routeSet (e : Delivery) :
    (d.deliver e).routeSet =
      if d.state = .terminated ∨ d.state = .confirmed ∨ e.msg.isOutgoing = true then d.routeSet
      else (d.learnRouteSet e.msg).routeSet := by
  simp only [deliver, updateUsageDetails, updateDialogDetails]
  cases hout : e.msg.isOutgoing <;> cases d.state <;> simp

theorem deliver_toSipDialogState (e : Delivery) :
    (d.deliver e).toSipDialogState =
      d.toSipDialogState.updateDialogDetails e.usages.isShared e.msg.toSipMessageInfo
        (e.usage.getNextState e.usages d.state e.msg).1
        (e.usage.getNextState e.usages d.state e.msg).2 :=
  updateUsageDetails_toSipDialogState e.usage e.usages

end RoutedDialog

/-- A dialog that is confirmed, or has ended, takes no more routes. -/
def DState.IsSettled (state : DState) : Prop := state = .confirmed ∨ state = .terminated

namespace SipDialogState

theorem updateState_isCaller (d : SipDialogState) (isShared : Bool)
    (usageState : Option DState) (action : Action) :
    (d.updateState isShared usageState action).isCaller = d.isCaller := by
  simp only [updateState]
  split <;> rfl

theorem updateDialogDetails_isCaller (d : SipDialogState) (isShared : Bool)
    (msgInfo : SipMessageInfo) (usageState : Option DState) (action : Action) :
    (d.updateDialogDetails isShared msgInfo usageState action).isCaller = d.isCaller := by
  simp only [updateDialogDetails]
  split_ifs <;> first | rfl | exact updateState_isCaller _ _ _ _

/-- The next state of a dialog that has not ended is the old one, the end, or what the
usage says. -/
theorem updateDialogDetails_state (d : SipDialogState) (isShared : Bool)
    (msgInfo : SipMessageInfo) (usageState : Option DState) (action : Action) :
    (d.updateDialogDetails isShared msgInfo usageState action).state = d.state ∨
      (d.updateDialogDetails isShared msgInfo usageState action).state = .terminated ∨
      some (d.updateDialogDetails isShared msgInfo usageState action).state = usageState := by
  simp only [updateDialogDetails]
  split_ifs
  · exact .inl rfl
  all_goals exact updateState_state _ isShared usageState action

theorem updateDialogDetails_transit {d : SipDialogState} {state : DState} (isShared : Bool)
    (msgInfo : SipMessageInfo) (hended : d.state ≠ .terminated) (hstate : state ≠ .terminated) :
    (d.updateDialogDetails isShared msgInfo (some state) .transitState).state = state := by
  have hshared : (isShared && some state == some DState.terminated) = false := by
    simp [hstate]
  simp only [updateDialogDetails, if_neg hended, updateState, hshared, Bool.false_eq_true,
    ↓reduceIte]

end SipDialogState

theorem inviteStateTable_settled (trigger : Trigger) {next : DState}
    (hnext : inviteStateTable .confirmed trigger = some next) : next.IsSettled := by
  revert hnext
  cases trigger <;> rintro ⟨⟩ <;> first | exact .inl rfl | exact .inr rfl

theorem subscribeStateTable_settled (trigger : Trigger) {next : DState}
    (hnext : subscribeStateTable .confirmed trigger = some next) : next.IsSettled := by
  revert hnext
  cases trigger <;> rintro ⟨⟩ <;> first | exact .inl rfl | exact .inr rfl

theorem getNextState_settled (usage : Usage) (usages : Usages) (msg : SipMessage)
    {next : DState} (hnext : (usage.getNextState usages .confirmed msg).1 = some next) :
    next.IsSettled := by
  cases usage with
  | ephemeral => cases hnext
  | invite => exact inviteStateTable_settled _ hnext
  | subscribe subState cSeq => exact subscribeStateTable_settled _ hnext

namespace RoutedDialog

variable {d : RoutedDialog}

theorem deliver_isCaller (e : Delivery) : (d.deliver e).isCaller = d.isCaller := by
  rw [deliver_toSipDialogState]
  exact SipDialogState.updateDialogDetails_isCaller _ _ _ _ _

theorem deliver_settled (e : Delivery) (hstate : d.state.IsSettled) :
    (d.deliver e).state.IsSettled := by
  rcases hstate with hconfirmed | hended
  · rw [deliver_toSipDialogState]
    rcases SipDialogState.updateDialogDetails_state d.toSipDialogState e.usages.isShared
        e.msg.toSipMessageInfo (e.usage.getNextState e.usages d.state e.msg).1
        (e.usage.getNextState e.usages d.state e.msg).2 with h | h | h
    · exact .inl (h.trans hconfirmed)
    · exact .inr h
    · rw [hconfirmed] at h ⊢
      exact getNextState_settled e.usage e.usages e.msg h.symm
  · rw [deliver_of_terminated e hended]
    exact .inr hended

theorem deliver_inviteSuccess {e : Delivery} (husage : e.usage = .invite)
    (hsuccess : e.msg.isInviteSuccess = true) (hstate : ¬ d.state.IsSettled) :
    (d.deliver e).state = .confirmed := by
  simp only [DState.IsSettled, not_or] at hstate
  simp only [SipMessage.isInviteSuccess, Bool.and_eq_true, beq_iff_eq, Bool.not_eq_true']
    at hsuccess
  obtain ⟨⟨hresponse, hmethod⟩, hcode⟩ := hsuccess
  have hrange := hcode
  simp only [isFinalSuccess, decide_eq_true_eq] at hrange
  have hprovisional : isProvisional e.msg.statusCode = false := by
    simp only [isProvisional, decide_eq_false_iff_not]
    omega
  have haction : Usage.invite.getActionForResponse e.usages d.state e.msg = .transitState := by
    simp only [Usage.getActionForResponse]
    split <;> first | omega | exact if_neg hstate.1
  have hnext : e.usage.getNextState e.usages d.state e.msg =
      (inviteStateTable d.state .c2xx, .transitState) := by
    simp [husage, Usage.getNextState, getInviteActionNTrigger, hresponse, hprovisional, hcode,
      hmethod, haction]
  have htable : inviteStateTable d.state .c2xx = some .confirmed := by
    cases hd : d.state with
    | init => rfl
    | early => rfl
    | confirmed => exact absurd hd hstate.1
    | terminated => exact absurd hd hstate.2
  rw [deliver_toSipDialogState, hnext, htable]
  apply SipDialogState.updateDialogDetails_transit _ _ hstate.2
  rintro ⟨⟩

end RoutedDialog

/-! ### Runs -/

/-- An INVITE dialog with the routes of the exchange that has created it, once it is
over: for a callee those of the INVITE, for a caller those of the 2xx to it. -/
structure RouteRun where
  dialog : RoutedDialog
  learned : Option (List Chars)
  deriving DecidableEq, Repr

namespace RouteRun

/-- The peer's INVITE is the first message of a callee's dialog. -/
def hasBegun (s : RouteRun) : Bool := s.dialog.isCaller || s.learned.isSome

/-- The first 2xx to the INVITE of a caller, as long as the dialog has not ended. -/
def completes (s : RouteRun) (msg : SipMessage) : Bool :=
  s.learned.isNone && !msg.isOutgoing && msg.isInviteSuccess && s.dialog.state != .terminated

def deliver (s : RouteRun) (e : Delivery) : RouteRun where
  dialog := s.dialog.deliver e
  learned := if s.completes e.msg then some e.msg.routes else s.learned

/-- The route set is that of the exchange that has created the dialog. -/
def RoutesLearned (s : RouteRun) : Prop :=
  ∀ routes, s.learned = some routes → s.dialog.routeSet = routes

end RouteRun

/-- Any message may follow the INVITE; an INVITE and the responses to it go through the
INVITE usage. -/
inductive RouteStep : RouteRun → Delivery → RouteRun → Prop where
  | initialInvite {e : Delivery} :
      e.usage = .invite → e.msg.method = .invite → e.msg.isOutgoing = false →
      e.msg.isRequest = true →
      RouteStep ⟨.new false, none⟩ e ⟨(RoutedDialog.new false).deliver e, some e.msg.recordRoutes⟩
  | message {s : RouteRun} {e : Delivery} :
      s.hasBegun = true → (e.msg.method = .invite → e.usage = .invite) →
      RouteStep s e (s.deliver e)

/-- The dialogs of callers and of callees. -/
def inviteDialogs : System RouteRun Delivery where
  Init s := ∃ isCaller, s = ⟨.new isCaller, none⟩
  Step := RouteStep

/-- What is to hold of a step: the route set is that of the dialog-creating exchange, a
received request within the dialog does not change it, and nothing changes that of a
confirmed dialog. -/
structure RouteSetFixed (s : RouteRun) (e : Delivery) (s' : RouteRun) : Prop where
  learned : s'.RoutesLearned
  request : s.hasBegun = true → e.msg.isOutgoing = false → e.msg.isRequest = true →
    s'.dialog.routeSet = s.dialog.routeSet
  confirmed : s.dialog.state = .confirmed → s'.dialog.routeSet = s.dialog.routeSet

/-- A received message leaves the routes to the exchange that creates the dialog: as long
as the dialog is not confirmed, a target refresh that finds the route set empty or
preloaded has the same routes, unless it is a response to a request of the caller; and the
2xx to the INVITE of a caller does not find the dialog confirmed by another usage with
other routes. -/
def LeavesRoutes (s : RouteRun) (e : Delivery) : Prop :=
  s.hasBegun = true → e.msg.isOutgoing = false → s.dialog.state ≠ .terminated →
    if s.dialog.state = .confirmed then
      s.completes e.msg = true → s.dialog.routeSet = e.msg.routes
    else
      e.msg.isRequest = true ∨ s.dialog.isCaller = false →
      e.msg.isTargetRefreshMessage = true →
      s.dialog.routeSet = [] ∨ s.dialog.preloadedSet = true ∨ e.msg.isInviteSuccess = true →
      s.dialog.routeSet = e.msg.routes

/-- What holds of every run whose steps leave the routes alone. -/
structure RouteRun.Consistent (s : RouteRun) : Prop where
  learned : s.RoutesLearned
  /-- A caller's dialog is settled once the exchange is over. -/
  settled : s.dialog.isCaller = true → s.learned ≠ none → s.dialog.state.IsSettled

namespace RouteRun.Consistent

variable {s s' : RouteRun} {e : Delivery}

theorem fixed_of_unread (hs : s.Consistent)
    (hunread : e.msg.isOutgoing = true ∨ s.dialog.state = .terminated) :
    RouteSetFixed s e (s.deliver e) := by
  have hroutes : (s.deliver e).dialog.routeSet = s.dialog.routeSet := by
    refine (RoutedDialog.deliver_routeSet e).trans (if_pos ?_)
    rcases hunread with hout | hended
    · exact .inr (.inr hout)
    · exact .inl hended
  have hlearned : (s.deliver e).learned = s.learned := by
    have hcompletes : s.completes e.msg = false := by
      rcases hunread with h | h <;> simp [RouteRun.completes, h]
    simp [RouteRun.deliver, hcompletes]
  refine ⟨?_, fun _ _ _ => hroutes, fun _ => hroutes⟩
  intro routes hsome
  rw [hroutes]
  exact hs.learned routes (hlearned ▸ hsome)

theorem fixed_iff_of_confirmed (hs : s.Consistent) (hstate : s.dialog.state = .confirmed) :
    RouteSetFixed s e (s.deliver e) ↔
      (s.completes e.msg = true → s.dialog.routeSet = e.msg.routes) := by
  have hroutes : (s.deliver e).dialog.routeSet = s.dialog.routeSet :=
    (RoutedDialog.deliver_routeSet e).trans (if_pos (.inr (.inl hstate)))
  constructor
  · intro hfixed hcompletes
    rw [← hroutes]
    apply hfixed.learned
    simp [RouteRun.deliver, hcompletes]
  · intro hcond
    refine ⟨?_, fun _ _ _ => hroutes, fun _ => hroutes⟩
    intro routes hsome
    rw [hroutes]
    cases hcompletes : s.completes e.msg with
    | true =>
        have hsome' : some e.msg.routes = some routes := by
          simpa [RouteRun.deliver, hcompletes] using hsome
        exact (hcond hcompletes).trans (Option.some.inj hsome')
    | false =>
        apply hs.learned
        simpa [RouteRun.deliver, hcompletes] using hsome

theorem fixed_of_completes (hstate : ¬ s.dialog.state.IsSettled)
    (hcompletes : s.completes e.msg = true) : RouteSetFixed s e (s.deliver e) := by
  have hdef := hcompletes
  simp only [RouteRun.completes, Bool.and_eq_true, Bool.not_eq_true'] at hdef
  obtain ⟨⟨⟨-, hin⟩, hsuccess⟩, -⟩ := hdef
  simp only [DState.IsSettled, not_or] at hstate
  have hroutes : (s.deliver e).dialog.routeSet = e.msg.routes := by
    have hread : ¬ (s.dialog.state = .terminated ∨ s.dialog.state = .confirmed ∨
        e.msg.isOutgoing = true) := by
      simp [hstate, hin]
    refine (RoutedDialog.deliver_routeSet e).trans ((if_neg hread).trans ?_)
    rw [RoutedDialog.learnRouteSet_routeSet, if_pos]
    exact ⟨RoutedDialog.isTargetRefreshMessage_of_isInviteSuccess hsuccess, .inr (.inr hsuccess)⟩
  refine ⟨?_, ?_, fun h => absurd h hstate.1⟩
  · intro routes hsome
    rw [hroutes]
    simpa [RouteRun.deliver, hcompletes] using hsome
  · intro _ _ hrequest
    simp [SipMessage.isInviteSuccess, hrequest] at hsuccess

theorem fixed_iff_of_open (hs : s.Consistent) (hbegun : s.hasBegun = true)
    (hin : e.msg.isOutgoing = false) (hstate : ¬ s.dialog.state.IsSettled)
    (hcompletes : s.completes e.msg = false) :
    RouteSetFixed s e (s.deliver e) ↔
      (e.msg.isRequest = true ∨ s.dialog.isCaller = false →
        (s.dialog.learnRouteSet e.msg).routeSet = s.dialog.routeSet) := by
  have hlearned : (s.deliver e).learned = s.learned := by
    simp [RouteRun.deliver, hcompletes]
  have hroutes : (s.deliver e).dialog.routeSet = (s.dialog.learnRouteSet e.msg).routeSet := by
    refine (RoutedDialog.deliver_routeSet e).trans (if_neg ?_)
    simp only [DState.IsSettled, not_or] at hstate
    simp [hstate, hin]
  have hcaller : s.dialog.isCaller = true → s.learned = none := by
    intro h
    by_contra hnone
    exact hstate (hs.settled h hnone)
  constructor
  · rintro hfixed (hrequest | hcallee)
    · rw [← hroutes]
      exact hfixed.request hbegun hin hrequest
    · have hsome : s.learned.isSome = true := by
        simpa [RouteRun.hasBegun, hcallee] using hbegun
      obtain ⟨routes, heq⟩ := Option.isSome_iff_exists.mp hsome
      rw [← hroutes, hs.learned routes heq]
      exact hfixed.learned routes (hlearned.trans heq)
  · intro hcond
    refine ⟨?_, ?_, fun h => absurd (.inl h) hstate⟩
    · intro routes hsome
      rw [hlearned] at hsome
      have hcallee : s.dialog.isCaller = false := by
        cases h : s.dialog.isCaller with
        | false => rfl
        | true =>
            rw [hcaller h] at hsome
            cases hsome
      rw [hroutes, hcond (.inr hcallee)]
      exact hs.learned routes hsome
    · intro _ _ hrequest
      rw [hroutes]
      exact hcond (.inl hrequest)

/-- A step within the dialog keeps the route set fixed exactly when its message leaves the
routes alone. -/
theorem fixed_deliver_iff (hs : s.Consistent) (hbegun : s.hasBegun = true) :
    RouteSetFixed s e (s.deliver e) ↔ LeavesRoutes s e := by
  cases hin : e.msg.isOutgoing with
  | true =>
      have hleaves : LeavesRoutes s e := by
        intro _ hout
        rw [hin] at hout
        cases hout
      exact iff_of_true (hs.fixed_of_unread (.inl hin)) hleaves
  | false =>
      by_cases hended : s.dialog.state = .terminated
      · have hleaves : LeavesRoutes s e := fun _ _ h => absurd hended h
        exact iff_of_true (hs.fixed_of_unread (.inr hended)) hleaves
      · have hleaves : LeavesRoutes s e ↔
            if s.dialog.state = .confirmed then
              s.completes e.msg = true → s.dialog.routeSet = e.msg.routes
            else
              e.msg.isRequest = true ∨ s.dialog.isCaller = false →
              (s.dialog.learnRouteSet e.msg).routeSet = s.dialog.routeSet := by
          rw [RoutedDialog.learnRouteSet_routeSet_eq_iff]
          exact ⟨fun h => h hbegun hin hended, fun h _ _ _ => h⟩
        rw [hleaves]
        split_ifs with hconfirmed
        · exact hs.fixed_iff_of_confirmed hconfirmed
        · have hopen : ¬ s.dialog.state.IsSettled := not_or.mpr ⟨hconfirmed, hended⟩
          cases hcompletes : s.completes e.msg with
          | false => exact hs.fixed_iff_of_open hbegun hin hopen hcompletes
          | true =>
              refine iff_of_true (fixed_of_completes hopen hcompletes) ?_
              have hdef := hcompletes
              simp only [RouteRun.completes, Bool.and_eq_true] at hdef
              obtain ⟨⟨⟨hnone, -⟩, hsuccess⟩, -⟩ := hdef
              rintro (hrequest | hcallee)
              · simp [SipMessage.isInviteSuccess, hrequest] at hsuccess
              · simp [RouteRun.hasBegun, hcallee, Option.isNone_iff_eq_none.mp hnone] at hbegun

theorem fixed_initialInvite (hmethod : e.msg.method = .invite)
    (hin : e.msg.isOutgoing = false) (hrequest : e.msg.isRequest = true) :
    RouteSetFixed ⟨.new false, none⟩ e
      ⟨(RoutedDialog.new false).deliver e, some e.msg.recordRoutes⟩ := by
  have hrefresh : e.msg.isTargetRefreshMessage = true := by
    simp [SipMessage.isTargetRefreshMessage, SipMessage.hasRefreshMethod, hmethod, hrequest]
  have hroutes : ((RoutedDialog.new false).deliver e).routeSet = e.msg.recordRoutes := by
    have hread : ¬ ((RoutedDialog.new false).state = .terminated ∨
        (RoutedDialog.new false).state = .confirmed ∨ e.msg.isOutgoing = true) := by
      rw [hin]
      decide
    rw [RoutedDialog.deliver_routeSet, if_neg hread, RoutedDialog.learnRouteSet_routeSet,
      if_pos ⟨hrefresh, .inl rfl⟩, SipMessage.routes, if_pos hrequest]
  refine ⟨?_, ?_, ?_⟩
  · rintro routes ⟨⟩
    exact hroutes
  · rintro ⟨⟩
  · rintro ⟨⟩

theorem fixed_iff (hs : s.Consistent) (hstep : RouteStep s e s') :
    RouteSetFixed s e s' ↔ LeavesRoutes s e := by
  cases hstep with
  | initialInvite husage hmethod hin hrequest =>
      refine iff_of_true (fixed_initialInvite hmethod hin hrequest) ?_
      rintro ⟨⟩
  | message hbegun husage => exact hs.fixed_deliver_iff hbegun

theorem settled_step (hs : s.Consistent) (hstep : RouteStep s e s')
    (hcaller : s'.dialog.isCaller = true) (hlearned : s'.learned ≠ none) :
    s'.dialog.state.IsSettled := by
  cases hstep with
  | initialInvite =>
      change ((RoutedDialog.new false).deliver e).isCaller = true at hcaller
      rw [RoutedDialog.deliver_isCaller] at hcaller
      cases hcaller
  | message hbegun husage =>
      change (s.dialog.deliver e).isCaller = true at hcaller
      rw [RoutedDialog.deliver_isCaller] at hcaller
      by_cases hstate : s.dialog.state.IsSettled
      · exact RoutedDialog.deliver_settled e hstate
      · cases hcompletes : s.completes e.msg with
        | true =>
            simp only [RouteRun.completes, Bool.and_eq_true] at hcompletes
            obtain ⟨⟨-, hsuccess⟩, -⟩ := hcompletes
            have hmethod : e.msg.method = .invite := by
              simp only [SipMessage.isInviteSuccess, Bool.and_eq_true, beq_iff_eq] at hsuccess
              exact hsuccess.1.2
            exact .inl (RoutedDialog.deliver_inviteSuccess (husage hmethod) hsuccess hstate)
        | false =>
            have hsame : (s.deliver e).learned = s.learned := by
              simp [RouteRun.deliver, hcompletes]
            exact absurd (hs.settled hcaller (hsame ▸ hlearned)) hstate

theorem of_reachable (hs : (inviteDialogs.restrict LeavesRoutes).Reachable s) :
    s.Consistent := by
  apply hs.restrict_invariant
  · rintro s ⟨isCaller, rfl⟩
    refine ⟨?_, ?_⟩
    · rintro routes ⟨⟩
    · intro _ hlearned
      exact absurd rfl hlearned
  · intro s e s' hs hleaves hstep
    exact ⟨((hs.fixed_iff hstep).mpr hleaves).learned, hs.settled_step hstep⟩

end RouteRun.Consistent

/-- In a run whose messages leave the routes to the exchange that creates the dialog, the
route set is the one learned in it; and the next step keeps it fixed exactly when its
message leaves it alone too. -/
theorem routeSet_fixed {s : RouteRun}
    (hs : (inviteDialogs.restrict LeavesRoutes).Reachable s) :
    s.RoutesLearned ∧ ∀ e s', RouteStep s e s' → (RouteSetFixed s e s' ↔ LeavesRoutes s e) :=
  have hconsistent := RouteRun.Consistent.of_reachable hs
  ⟨hconsistent.learned, fun _ _ hstep => hconsistent.fixed_iff hstep⟩

/-! ### A callee without Record-Route -/

def plainInvite : SipMessage :=
  { reInvite with cSeqNumber := 1, toTag := [], recordRoutes := [] }

/-- An UPDATE of the peer in the early dialog, through a proxy that adds a route. -/
def routedUpdate : SipMessage :=
  { reInvite with method := .update, recordRoutes := ["<sip:p;lr>".toList] }

def calleeInvited : RouteRun :=
  ⟨(RoutedDialog.new false).deliver (inviteDelivery plainInvite), some []⟩

theorem step_calleeInvited :
    RouteStep ⟨.new false, none⟩ (inviteDelivery plainInvite) calleeInvited :=
  .initialInvite rfl rfl rfl rfl

theorem routeSet_fixed_invite :
    calleeInvited.RoutesLearned ∧
      (RouteSetFixed calleeInvited (inviteDelivery plainInvite)
          (calleeInvited.deliver (inviteDelivery plainInvite)) ↔
        LeavesRoutes calleeInvited (inviteDelivery plainInvite)) := by
  have hinit : (inviteDialogs.restrict LeavesRoutes).Reachable ⟨.new false, none⟩ :=
    .init ⟨false, rfl⟩
  have hleaves : LeavesRoutes ⟨.new false, none⟩ (inviteDelivery plainInvite) := by
    rintro ⟨⟩
  have hreached := hinit.step _ ⟨hleaves, step_calleeInvited⟩
  have hfixed := routeSet_fixed hreached
  exact ⟨hfixed.1, hfixed.2 _ _ (.message (by decide) fun _ => rfl)⟩

def ringing : SipMessage :=
  { plainInvite with
    isOutgoing := true, isRequest := false, statusCode := 180, toTag := "t".toList }

/-- The empty route set of a callee that has sent 180 is filled by the UPDATE. -/
theorem routeSet_changed_by_update :
    ∃ s e s', inviteDialogs.Reachable s ∧ RouteStep s e s' ∧ ¬ RouteSetFixed s e s' := by
  refine ⟨calleeInvited.deliver (inviteDelivery ringing), inviteDelivery routedUpdate, _, ?_,
    .message (by decide) ?_, ?_⟩
  · have hinvited : inviteDialogs.Reachable calleeInvited :=
      .step _ (.init ⟨false, rfl⟩) step_calleeInvited
    exact hinvited.step (inviteDelivery ringing) (.message (by decide) fun _ => rfl)
  · rintro ⟨⟩
  · intro hfixed
    have hlearned := hfixed.learned [] rfl
    revert hlearned
    decide

end ImsStack.SipCore
