import ImsStack.Library.PendingValues
import ImsStack.SipCore.DialogRouting
import Mathlib.Tactic.SplitIfs

/-!
The remote target of a dialog against the target-refresh requests received in it.  The
list of pending targets is a register of values in the sense of `PendingValues`: a
request proposes its Contact, a success response accepts it and a failure refuses it.
-/

namespace ImsStack.SipCore

open TransitionSystem PendingValues
open ImsStack.Platform.AString (Chars)

namespace RoutedDialog

/-- The remote target with the pending ones. -/
def targets (d : RoutedDialog) : Register Chars Chars := ⟨d.remoteTarget, d.pendingRemoteTargets⟩

variable {d : RoutedDialog} {msg : SipMessage}

/-! ### The operations on the list of pending targets -/

theorem addPendingRemoteTarget_targets {contact : Chars} {rest : List Chars}
    (hbranch : msg.viaBranch ≠ []) (hcontacts : msg.contacts = contact :: rest)
    (hfresh : ∀ b ∈ d.pendingRemoteTargets, b.1 ≠ msg.viaBranch) :
    (d.addPendingRemoteTarget msg).targets = d.targets.propose msg.viaBranch contact := by
  have hany : d.pendingRemoteTargets.any (·.1 == msg.viaBranch) = false := by
    rw [List.any_eq_false]
    intro b hb
    simpa using hfresh b hb
  simp only [addPendingRemoteTarget, if_neg hbranch, hany, hcontacts]
  rfl

theorem addPendingRemoteTarget_again :
    (d.addPendingRemoteTarget msg).addPendingRemoteTarget msg =
      d.addPendingRemoteTarget msg := by
  cases hcontacts : msg.contacts with
  | nil => simp only [addPendingRemoteTarget, hcontacts, ite_self]
  | cons contact rest =>
      by_cases hbranch : msg.viaBranch = []
      · simp only [addPendingRemoteTarget, if_pos hbranch]
      · cases hany : d.pendingRemoteTargets.any (·.1 == msg.viaBranch) with
        | true => simp only [addPendingRemoteTarget, if_neg hbranch, hany, ↓reduceIte]
        | false => simp [addPendingRemoteTarget, hbranch, hany, hcontacts]

theorem addPendingRemoteTarget_congr {d' : RoutedDialog} (htargets : d.targets = d'.targets) :
    (d.addPendingRemoteTarget msg).targets = (d'.addPendingRemoteTarget msg).targets := by
  simp only [targets, Register.mk.injEq] at htargets
  simp only [addPendingRemoteTarget, htargets.2]
  split_ifs
  · simp only [targets, htargets.1, htargets.2]
  · simp only [targets, htargets.1, htargets.2]
  · cases msg.contacts <;> simp only [targets, htargets.1, htargets.2]

theorem removePendingRemoteTarget_targets (hbranch : msg.viaBranch ≠ []) :
    (d.removePendingRemoteTarget msg).targets = d.targets.refuse msg.viaBranch := by
  simp only [removePendingRemoteTarget, if_neg hbranch]
  rfl

theorem updateAndRemovePendingRemoteTarget_targets (hbranch : msg.viaBranch ≠ []) :
    (d.updateAndRemovePendingRemoteTarget msg).targets = d.targets.accept msg.viaBranch := by
  simp only [updateAndRemovePendingRemoteTarget, if_neg hbranch, targets, Register.accept]
  cases d.pendingRemoteTargets.dropWhile (·.1 ≠ msg.viaBranch) <;> rfl

/-! ### What a message does to the targets -/

theorem addPendingRemoteTarget_toSipDialogState :
    (d.addPendingRemoteTarget msg).toSipDialogState = d.toSipDialogState := by
  simp only [addPendingRemoteTarget]
  split_ifs
  · rfl
  · rfl
  · split <;> rfl

theorem updateContact_toSipDialogState :
    (d.updateContact msg).toSipDialogState = d.toSipDialogState := by
  simp only [updateContact, removePendingRemoteTarget, updateAndRemovePendingRemoteTarget]
  repeat' split
  all_goals first | rfl | exact addPendingRemoteTarget_toSipDialogState

theorem createRouteSet_toSipDialogState :
    (d.createRouteSet msg).toSipDialogState = d.toSipDialogState := by
  simp only [createRouteSet, insertRecordRoutes]
  split_ifs <;> simp only [updateContact_toSipDialogState]

theorem learnRouteSet_toSipDialogState :
    (d.learnRouteSet msg).toSipDialogState = d.toSipDialogState := by
  simp only [learnRouteSet, updateRouteSet, clearRouteSet]
  split_ifs <;> simp only [updateContact_toSipDialogState, createRouteSet_toSipDialogState]

end RoutedDialog

namespace SipDialogState

theorem updateState_state (d : SipDialogState) (isShared : Bool) (usageState : Option DState)
    (action : Action) :
    (d.updateState isShared usageState action).state = d.state ∨
      (d.updateState isShared usageState action).state = .terminated ∨
      some (d.updateState isShared usageState action).state = usageState := by
  cases action with
  | transitState =>
      simp only [updateState]
      split_ifs
      · exact .inl rfl
      · cases usageState with
        | none => exact .inl rfl
        | some usageState => exact .inr (.inr rfl)
  | destroyUsage => cases isShared <;> simp [updateState]
  | destroyDialog => exact .inr (.inl rfl)
  | ignore => exact .inl rfl

theorem updateState_state_ne_init {d : SipDialogState} {isShared : Bool}
    {usageState : Option DState} {action : Action} (hstate : d.state ≠ .init)
    (hnext : usageState ≠ some .init) :
    (d.updateState isShared usageState action).state ≠ .init := by
  intro hinit
  rcases updateState_state d isShared usageState action with h | h | h
  · exact hstate (h ▸ hinit)
  · rw [hinit] at h
    cases h
  · exact hnext (h ▸ congrArg some hinit)

theorem updateDialogDetails_state_ne_init {d : SipDialogState} {isShared : Bool}
    {msgInfo : SipMessageInfo} {usageState : Option DState} {action : Action}
    (hstate : d.state ≠ .init) (hnext : usageState ≠ some .init) :
    (d.updateDialogDetails isShared msgInfo usageState action).state ≠ .init := by
  simp only [updateDialogDetails]
  split_ifs <;> first | exact hstate | exact updateState_state_ne_init hstate hnext

end SipDialogState

/-- A target-refresh request, received. -/
structure SipMessage.IsRefreshRequest (msg : SipMessage) : Prop where
  incoming : msg.isOutgoing = false
  request : msg.isRequest = true
  method : msg.hasRefreshMethod = true

/-- A response to such a request, sent. -/
structure SipMessage.IsRefreshResponse (msg : SipMessage) : Prop where
  outgoing : msg.isOutgoing = true
  response : msg.isRequest = false
  method : msg.hasRefreshMethod = true

namespace RoutedDialog

variable {d : RoutedDialog} {msg : SipMessage}

theorem updateContact_of_request (hmsg : msg.IsRefreshRequest) (hstate : d.state ≠ .init)
    (hcontacts : msg.contacts ≠ []) : d.updateContact msg = d.addPendingRemoteTarget msg := by
  have hrefresh : msg.isTargetRefreshMessage = true := by
    simp [SipMessage.isTargetRefreshMessage, hmsg.method, hmsg.request]
  obtain ⟨contact, rest, hcons⟩ := List.exists_cons_of_ne_nil hcontacts
  simp [updateContact, hrefresh, hcons, hmsg.incoming, hmsg.request, hstate]

theorem createRouteSet_targets_of_request (hmsg : msg.IsRefreshRequest)
    (hstate : d.state ≠ .init) (hcontacts : msg.contacts ≠ []) :
    (d.createRouteSet msg).targets = (d.addPendingRemoteTarget msg).targets := by
  have hrefresh : msg.isTargetRefreshMessage = true := by
    simp [SipMessage.isTargetRefreshMessage, hmsg.method, hmsg.request]
  simp only [createRouteSet, hrefresh, ↓reduceIte]
  split_ifs
  · have hinsert : (d.insertRecordRoutes msg).state = d.state := by
      simp [insertRecordRoutes, hmsg.request]
    rw [updateContact_of_request hmsg (hinsert ▸ hstate) hcontacts]
    apply addPendingRemoteTarget_congr
    simp only [insertRecordRoutes, hmsg.request, ↓reduceIte]
    rfl
  · rw [updateContact_of_request hmsg hstate hcontacts]

theorem learnRouteSet_targets_of_request (hmsg : msg.IsRefreshRequest)
    (hstate : d.state ≠ .init) (hcontacts : msg.contacts ≠ []) :
    (d.learnRouteSet msg).targets = (d.addPendingRemoteTarget msg).targets := by
  have hrefresh : msg.isTargetRefreshMessage = true := by
    simp [SipMessage.isTargetRefreshMessage, hmsg.method, hmsg.request]
  have hsuccess : msg.isInviteSuccess = false := by
    simp [SipMessage.isInviteSuccess, hmsg.request]
  simp only [learnRouteSet, updateRouteSet, hrefresh, hsuccess, ↓reduceIte, Bool.false_eq_true]
  split_ifs
  · exact createRouteSet_targets_of_request hmsg hstate hcontacts
  · change (d.clearRouteSet.createRouteSet msg).targets = _
    have hclear : d.clearRouteSet.state ≠ .init := hstate
    rw [createRouteSet_targets_of_request hmsg hclear hcontacts]
    exact addPendingRemoteTarget_congr rfl
  · rw [updateContact_of_request hmsg hstate hcontacts]

/-- A received request is stored, once, whether or not the route set is looked at. -/
theorem updateDialogDetails_targets_of_request (hmsg : msg.IsRefreshRequest)
    (hstate : d.state ≠ .init) (hended : d.state ≠ .terminated) (hcontacts : msg.contacts ≠ [])
    (isShared : Bool) (usageState : Option DState) (action : Action) :
    (d.updateDialogDetails isShared msg usageState action).targets =
      (d.addPendingRemoteTarget msg).targets := by
  simp only [updateDialogDetails, if_neg hended, hmsg.incoming, Bool.not_false, Bool.true_and]
  split_ifs
  · have hlearn : (d.learnRouteSet msg).state ≠ .init := by
      rw [learnRouteSet_toSipDialogState]
      exact hstate
    change ((d.learnRouteSet msg).updateContact msg).targets = _
    rw [updateContact_of_request hmsg hlearn hcontacts,
      addPendingRemoteTarget_congr (learnRouteSet_targets_of_request hmsg hstate hcontacts),
      addPendingRemoteTarget_again]
  · change (d.updateContact msg).targets = _
    rw [updateContact_of_request hmsg hstate hcontacts]

theorem updateDialogDetails_targets_of_response (hmsg : msg.IsRefreshResponse)
    (hended : d.state ≠ .terminated) (isShared : Bool) (usageState : Option DState)
    (action : Action) :
    (d.updateDialogDetails isShared msg usageState action).targets =
      (d.updateContact msg).targets := by
  simp only [updateDialogDetails, if_neg hended, hmsg.outgoing, Bool.not_true, Bool.false_and,
    Bool.false_eq_true, ↓reduceIte]
  rfl

theorem updateContact_of_failure (hmsg : msg.IsRefreshResponse)
    (hprovisional : isProvisional msg.statusCode = false)
    (hsuccess : isFinalSuccess msg.statusCode = false) (htrying : msg.statusCode ≠ 100) :
    d.updateContact msg = d.removePendingRemoteTarget msg := by
  have hrefresh : msg.isTargetRefreshMessage = false := by
    simp [SipMessage.isTargetRefreshMessage, hmsg.response, hprovisional, hsuccess]
  simp [updateContact, hrefresh, hmsg.outgoing, hmsg.response, htrying]

theorem updateContact_of_trying (hmsg : msg.IsRefreshResponse) (htrying : msg.statusCode = 100) :
    d.updateContact msg = d := by
  have hrefresh : msg.isTargetRefreshMessage = false := by
    simp [SipMessage.isTargetRefreshMessage, hmsg.response, htrying, isProvisional,
      isFinalSuccess]
  simp [updateContact, hrefresh, htrying]

theorem updateContact_of_refresh (hmsg : msg.IsRefreshResponse)
    (hrefresh : msg.isTargetRefreshMessage = true) (hcontacts : msg.contacts ≠ []) :
    (d.updateContact msg).targets = (d.updateAndRemovePendingRemoteTarget msg).targets := by
  obtain ⟨contact, rest, hcons⟩ := List.exists_cons_of_ne_nil hcontacts
  simp only [updateContact, hrefresh, hcons, hmsg.outgoing, hmsg.response, Bool.not_true,
    Bool.not_false, Bool.false_eq_true, ↓reduceIte, updateAndRemovePendingRemoteTarget]
  split_ifs
  · rfl
  · cases d.pendingRemoteTargets.dropWhile (·.1 ≠ msg.viaBranch) <;> rfl

theorem updateContact_of_noContact (hrefresh : msg.isTargetRefreshMessage = true)
    (hcontacts : msg.contacts = []) : d.updateContact msg = d := by
  simp [updateContact, hrefresh, hcontacts]

/-! ### A dialog does not go back to its initial state -/

theorem inviteStateTable_ne_init {state : DState} (trigger : Trigger) (hstate : state ≠ .init) :
    inviteStateTable state trigger ≠ some .init := by
  cases state <;> cases trigger <;> simp_all [inviteStateTable]

theorem subscribeStateTable_ne_init {state : DState} (trigger : Trigger)
    (hstate : state ≠ .init) : subscribeStateTable state trigger ≠ some .init := by
  cases state <;> cases trigger <;> simp_all [subscribeStateTable]

theorem getNextState_ne_init (usage : Usage) (usages : Usages) {state : DState}
    (msg : SipMessage) (hstate : state ≠ .init) :
    (usage.getNextState usages state msg).1 ≠ some .init := by
  cases usage with
  | ephemeral => simp [Usage.getNextState]
  | invite => exact inviteStateTable_ne_init _ hstate
  | subscribe subState cSeq => exact subscribeStateTable_ne_init _ hstate

theorem updateUsageDetails_toSipDialogState (usage : Usage) (usages : Usages) :
    (d.updateUsageDetails usage usages msg).toSipDialogState =
      d.toSipDialogState.updateDialogDetails usages.isShared msg.toSipMessageInfo
        (usage.getNextState usages d.state msg).1 (usage.getNextState usages d.state msg).2 := by
  simp only [updateUsageDetails, updateDialogDetails]
  by_cases hended : d.state = .terminated
  · simp only [SipDialogState.updateDialogDetails, if_pos hended]
  · have hlearn : (if !msg.isOutgoing && d.state != .confirmed then d.learnRouteSet msg
        else d).toSipDialogState = d.toSipDialogState := by
      split
      · exact learnRouteSet_toSipDialogState
      · rfl
    rw [if_neg hended]
    simp only [updateContact_toSipDialogState, hlearn]

theorem updateUsageDetails_state_ne_init (usage : Usage) (usages : Usages)
    (hstate : d.state ≠ .init) : (d.updateUsageDetails usage usages msg).state ≠ .init := by
  rw [updateUsageDetails_toSipDialogState]
  exact SipDialogState.updateDialogDetails_state_ne_init hstate
    (getNextState_ne_init usage usages msg hstate)

end RoutedDialog

/-! ### Runs -/

/-- A message with the usage it goes through. -/
structure Delivery where
  usage : Usage
  usages : Usages
  msg : SipMessage
  deriving DecidableEq, Repr

def RoutedDialog.deliver (d : RoutedDialog) (e : Delivery) : RoutedDialog :=
  d.updateUsageDetails e.usage e.usages e.msg

/-- What a response has decided about its request; a provisional one has decided
nothing. -/
def SipMessage.verdict (msg : SipMessage) : Option Verdict :=
  if 100 ≤ msg.statusCode ∧ msg.statusCode < 200 then none
  else if isFinalSuccess msg.statusCode then some .accepted
  else some .refused

/-- A dialog with the target-refresh requests received in it: their branches, their
Contacts and their answers. -/
structure TargetRun where
  dialog : RoutedDialog
  /-- The remote target before all of them. -/
  initial : Chars
  requests : History Chars Chars
  deriving DecidableEq, Repr

/-- The requests with a response to one of them. -/
def TargetRun.answered (s : TargetRun) (msg : SipMessage) : History Chars Chars :=
  match msg.verdict with
  | some verdict => s.requests.judge msg.viaBranch verdict
  | none => s.requests

/-- Target-refresh requests are received, each with a branch of its own and a Contact,
and responses to them are sent. -/
inductive TargetStep : TargetRun → Delivery → TargetRun → Prop where
  | request {s : TargetRun} {e : Delivery} {contact : Chars} {rest : List Chars} :
      e.msg.IsRefreshRequest → e.msg.viaBranch ≠ [] →
      e.msg.viaBranch ∉ History.keys s.requests → e.msg.contacts = contact :: rest →
      TargetStep s e
        { s with
          dialog := s.dialog.deliver e
          requests := s.requests.propose e.msg.viaBranch contact }
  | response {s : TargetRun} {e : Delivery} :
      e.msg.IsRefreshResponse → e.msg.viaBranch ≠ [] →
      TargetStep s e { s with dialog := s.dialog.deliver e, requests := s.answered e.msg }

/-- A dialog past its initial state, before the first of the requests. -/
def refreshedDialogs : System TargetRun Delivery where
  Init s := s.dialog.state ≠ .init ∧ s.dialog.pendingRemoteTargets = [] ∧
    s.initial = s.dialog.remoteTarget ∧ s.requests = []
  Step := TargetStep

/-- The remote target is the Contact of the newest request that was answered with a
success, and the pending ones are those of the newer requests without an answer. -/
def TargetRun.FollowsAccepted (s : TargetRun) : Prop :=
  s.dialog.remoteTarget = s.requests.inForce s.initial ∧
    s.dialog.pendingRemoteTargets = s.requests.stillOpen

/-- The responses to a pending request leave it to the success response to move the
target: no other provisional response than 100 without a To tag, none with a Contact, and
no success response without one.  A dialog that has ended neither stores targets nor
moves them. -/
def MovesOnSuccess (s : TargetRun) (e : Delivery) : Prop :=
  if e.msg.isRequest then s.dialog.state ≠ .terminated
  else
    (∃ b ∈ s.dialog.pendingRemoteTargets, b.1 = e.msg.viaBranch) →
      if s.dialog.state = .terminated then e.msg.verdict = none
      else
        (isProvisional e.msg.statusCode = true →
          e.msg.isTargetRefreshMessage = true ∧ e.msg.contacts = []) ∧
        (isFinalSuccess e.msg.statusCode = true → e.msg.contacts ≠ [])

/-- What holds of a run: the register of the dialog is that of the history. -/
structure TargetRun.Consistent (s : TargetRun) : Prop where
  started : s.dialog.state ≠ .init
  distinct : (History.keys s.requests).Nodup
  targets : s.dialog.targets = .ofHistory s.initial s.requests

namespace TargetRun.Consistent

variable {s : TargetRun} {e : Delivery}

theorem followsAccepted (hs : s.Consistent) : s.FollowsAccepted := by
  have htargets := hs.targets
  simp only [RoutedDialog.targets, Register.ofHistory, Register.mk.injEq] at htargets
  exact htargets

theorem request (hs : s.Consistent) {contact : Chars} {rest : List Chars}
    (hmsg : e.msg.IsRefreshRequest) (hbranch : e.msg.viaBranch ≠ [])
    (hfresh : e.msg.viaBranch ∉ History.keys s.requests)
    (hcontacts : e.msg.contacts = contact :: rest) (hended : s.dialog.state ≠ .terminated) :
    TargetRun.Consistent
      { s with
        dialog := s.dialog.deliver e
        requests := s.requests.propose e.msg.viaBranch contact } where
  started := RoutedDialog.updateUsageDetails_state_ne_init _ _ hs.started
  distinct := by
    simp only [History.propose, History.keys, List.map_append, List.map_cons, List.map_nil]
    apply hs.distinct.append (List.nodup_singleton _)
    simpa using hfresh
  targets := by
    change (s.dialog.updateDialogDetails _ e.msg _ _).targets = _
    have hpending : s.dialog.pendingRemoteTargets = s.requests.stillOpen :=
      hs.followsAccepted.2
    rw [RoutedDialog.updateDialogDetails_targets_of_request hmsg hs.started hended
        (hcontacts ▸ List.cons_ne_nil _ _),
      RoutedDialog.addPendingRemoteTarget_targets hbranch hcontacts
        (hpending ▸ Register.stillOpen_notMem hfresh),
      Register.ofHistory_propose, hs.targets]

end TargetRun.Consistent

namespace SipMessage

variable {msg : SipMessage}

theorem verdict_of_trying (hcode : msg.statusCode = 100) : msg.verdict = none := by
  simp [verdict, hcode]

theorem verdict_of_provisional (hcode : isProvisional msg.statusCode = true) :
    msg.verdict = none := by
  simp only [isProvisional, decide_eq_true_eq] at hcode
  exact if_pos ⟨by omega, hcode.2⟩

theorem verdict_of_success (hcode : isFinalSuccess msg.statusCode = true) :
    msg.verdict = some .accepted := by
  have hrange := hcode
  simp only [isFinalSuccess, decide_eq_true_eq] at hrange
  rw [verdict, if_neg (by omega), if_pos hcode]

theorem verdict_of_failure (htrying : msg.statusCode ≠ 100)
    (hprovisional : isProvisional msg.statusCode = false)
    (hsuccess : isFinalSuccess msg.statusCode = false) : msg.verdict = some .refused := by
  simp only [isProvisional, decide_eq_false_iff_not] at hprovisional
  rw [verdict, if_neg (by omega), hsuccess, if_neg Bool.false_ne_true]

end SipMessage

namespace RoutedDialog

variable {d : RoutedDialog} {msg : SipMessage}

theorem updateContact_targets_cases (hmsg : msg.IsRefreshResponse)
    (hbranch : msg.viaBranch ≠ []) :
    (d.updateContact msg).targets = d.targets ∨
      (d.updateContact msg).targets = d.targets.refuse msg.viaBranch ∨
      (d.updateContact msg).targets = d.targets.accept msg.viaBranch := by
  cases hrefresh : msg.isTargetRefreshMessage with
  | true =>
      by_cases hcontacts : msg.contacts = []
      · rw [updateContact_of_noContact hrefresh hcontacts]
        exact .inl rfl
      · rw [updateContact_of_refresh hmsg hrefresh hcontacts,
          updateAndRemovePendingRemoteTarget_targets hbranch]
        exact .inr (.inr rfl)
  | false =>
      by_cases htrying : msg.statusCode = 100
      · rw [updateContact_of_trying hmsg htrying]
        exact .inl rfl
      · have hremove : d.updateContact msg = d.removePendingRemoteTarget msg := by
          simp [updateContact, hrefresh, hmsg.outgoing, hmsg.response, htrying]
        rw [hremove, removePendingRemoteTarget_targets hbranch]
        exact .inr (.inl rfl)

theorem updateContact_targets_of_pending (hmsg : msg.IsRefreshResponse)
    (hbranch : msg.viaBranch ≠ [])
    (hprovisional : isProvisional msg.statusCode = true →
      msg.isTargetRefreshMessage = true ∧ msg.contacts = [])
    (hsuccess : isFinalSuccess msg.statusCode = true → msg.contacts ≠ []) :
    (d.updateContact msg).targets =
      (msg.verdict.map (d.targets.judge msg.viaBranch)).getD d.targets := by
  by_cases htrying : msg.statusCode = 100
  · rw [updateContact_of_trying hmsg htrying, SipMessage.verdict_of_trying htrying]
    rfl
  · cases hp : isProvisional msg.statusCode with
    | true =>
        obtain ⟨hrefresh, hcontacts⟩ := hprovisional hp
        rw [updateContact_of_noContact hrefresh hcontacts, SipMessage.verdict_of_provisional hp]
        rfl
    | false =>
        cases hf : isFinalSuccess msg.statusCode with
        | true =>
            have hrefresh : msg.isTargetRefreshMessage = true := by
              simp [SipMessage.isTargetRefreshMessage, hmsg.method, hf]
            rw [updateContact_of_refresh hmsg hrefresh (hsuccess hf),
              updateAndRemovePendingRemoteTarget_targets hbranch,
              SipMessage.verdict_of_success hf]
            rfl
        | false =>
            rw [updateContact_of_failure hmsg hp hf htrying,
              removePendingRemoteTarget_targets hbranch,
              SipMessage.verdict_of_failure htrying hp hf]
            rfl

theorem updateContact_targets_of_notMem (hmsg : msg.IsRefreshResponse)
    (hbranch : msg.viaBranch ≠ [])
    (hpending : ∀ b ∈ d.pendingRemoteTargets, b.1 ≠ msg.viaBranch) :
    (d.updateContact msg).targets = d.targets := by
  rcases updateContact_targets_cases (d := d) hmsg hbranch with h | h | h
  · exact h
  · exact h.trans (Register.refuse_of_notMem hpending)
  · exact h.trans (Register.accept_of_notMem hpending)

theorem deliver_targets_of_response {e : Delivery} (hmsg : e.msg.IsRefreshResponse)
    (hended : d.state ≠ .terminated) :
    (d.deliver e).targets = (d.updateContact e.msg).targets :=
  updateDialogDetails_targets_of_response hmsg hended _ _ _

theorem deliver_of_terminated (e : Delivery) (hended : d.state = .terminated) :
    d.deliver e = d := by
  simp only [deliver, updateUsageDetails, updateDialogDetails, if_pos hended]

end RoutedDialog

namespace TargetRun.Consistent

variable {s : TargetRun} {e : Delivery}

theorem keys_answered (s : TargetRun) (msg : SipMessage) :
    History.keys (s.answered msg) = History.keys s.requests := by
  unfold TargetRun.answered
  split
  · exact History.keys_judge _ _ _
  · rfl

theorem ofHistory_answered (hs : s.Consistent) (msg : SipMessage) :
    Register.ofHistory s.initial (s.answered msg) =
      (msg.verdict.map (s.dialog.targets.judge msg.viaBranch)).getD s.dialog.targets := by
  rw [hs.targets, TargetRun.answered]
  cases msg.verdict with
  | none => rfl
  | some verdict => exact Register.ofHistory_judge _ _ _ _ hs.distinct

theorem response (hs : s.Consistent) (hmsg : e.msg.IsRefreshResponse)
    (hbranch : e.msg.viaBranch ≠ []) (hmoves : MovesOnSuccess s e) :
    TargetRun.Consistent
      { s with dialog := s.dialog.deliver e, requests := s.answered e.msg } where
  started := RoutedDialog.updateUsageDetails_state_ne_init _ _ hs.started
  distinct := by
    rw [keys_answered]
    exact hs.distinct
  targets := by
    change (s.dialog.deliver e).targets = Register.ofHistory s.initial (s.answered e.msg)
    rw [ofHistory_answered hs]
    simp only [MovesOnSuccess, hmsg.response, Bool.false_eq_true, ↓reduceIte] at hmoves
    by_cases hpending : ∃ b ∈ s.dialog.pendingRemoteTargets, b.1 = e.msg.viaBranch
    · have hmoves := hmoves hpending
      split_ifs at hmoves with hended
      · rw [RoutedDialog.deliver_of_terminated e hended, hmoves]
        rfl
      · rw [RoutedDialog.deliver_targets_of_response hmsg hended]
        exact RoutedDialog.updateContact_targets_of_pending hmsg hbranch hmoves.1 hmoves.2
    · have hnone : ∀ b ∈ s.dialog.pendingRemoteTargets, b.1 ≠ e.msg.viaBranch :=
        fun b hb heq => hpending ⟨b, hb, heq⟩
      have hright : (e.msg.verdict.map (s.dialog.targets.judge e.msg.viaBranch)).getD
          s.dialog.targets = s.dialog.targets := by
        cases e.msg.verdict with
        | none => rfl
        | some verdict => exact Register.judge_of_notMem verdict hnone
      rw [hright]
      by_cases hended : s.dialog.state = .terminated
      · rw [RoutedDialog.deliver_of_terminated e hended]
      · rw [RoutedDialog.deliver_targets_of_response hmsg hended]
        exact RoutedDialog.updateContact_targets_of_notMem hmsg hbranch hnone

theorem step {s' : TargetRun} (hs : s.Consistent) (hmoves : MovesOnSuccess s e)
    (hstep : TargetStep s e s') : s'.Consistent := by
  cases hstep with
  | request hmsg hbranch hfresh hcontacts =>
      have hended : s.dialog.state ≠ .terminated := by
        simpa [MovesOnSuccess, hmsg.request] using hmoves
      exact hs.request hmsg hbranch hfresh hcontacts hended
  | response hmsg hbranch => exact hs.response hmsg hbranch hmoves

theorem of_reachable (hs : (refreshedDialogs.restrict MovesOnSuccess).Reachable s) :
    s.Consistent := by
  apply hs.restrict_invariant
  · rintro s ⟨hstate, hpending, hinitial, hrequests⟩
    refine ⟨hstate, ?_, ?_⟩
    · rw [hrequests]
      exact List.nodup_nil
    · rw [RoutedDialog.targets, hpending, hrequests, hinitial]
      rfl
  · intro s e s' hs hmoves hstep
    exact hs.step hmoves hstep

end TargetRun.Consistent

/-- As long as provisional responses leave the pending targets alone and success
responses carry a Contact, the remote target is that of the newest request accepted and
the pending ones are those of the newer requests without an answer; a failure response
never moves the target. -/
theorem remoteTarget_followsAccepted {s : TargetRun}
    (hs : (refreshedDialogs.restrict MovesOnSuccess).Reachable s) :
    s.FollowsAccepted ∧
      ∀ e s', TargetStep s e s' → e.msg.isRequest = false → e.msg.verdict = some .refused →
        s'.dialog.remoteTarget = s.dialog.remoteTarget := by
  refine ⟨(TargetRun.Consistent.of_reachable hs).followsAccepted, ?_⟩
  intro e s' hstep hresponse hverdict
  cases hstep with
  | request hmsg =>
      rw [hmsg.request] at hresponse
      cases hresponse
  | response hmsg hbranch =>
      by_cases hended : s.dialog.state = .terminated
      · change (s.dialog.deliver e).remoteTarget = _
        rw [RoutedDialog.deliver_of_terminated e hended]
      · have htargets := RoutedDialog.deliver_targets_of_response hmsg hended
        have hremove : s.dialog.updateContact e.msg = s.dialog.removePendingRemoteTarget e.msg := by
          apply RoutedDialog.updateContact_of_failure hmsg
          · cases hp : isProvisional e.msg.statusCode with
            | true => rw [SipMessage.verdict_of_provisional hp] at hverdict; cases hverdict
            | false => rfl
          · cases hf : isFinalSuccess e.msg.statusCode with
            | true => rw [SipMessage.verdict_of_success hf] at hverdict; cases hverdict
            | false => rfl
          · intro htrying
            rw [SipMessage.verdict_of_trying htrying] at hverdict
            cases hverdict
        rw [hremove, RoutedDialog.removePendingRemoteTarget_targets hbranch] at htargets
        exact congrArg Register.current htargets

/-- A callee's dialog once the 2xx to the INVITE has been sent. -/
def confirmedDialog : RoutedDialog :=
  { RoutedDialog.new false with state := .confirmed, remoteTarget := "<sip:a>".toList }

/-- A re-INVITE of the peer with a new Contact. -/
def reInvite : SipMessage where
  isOutgoing := false
  isRequest := true
  method := .invite
  cSeqNumber := 2
  statusCode := 0
  hasRSeq := false
  requires100Rel := false
  hasRetryAfter := false
  toTag := "t".toList
  viaBranch := "z9hG4bK1".toList
  recordRoutes := []
  contacts := ["<sip:b>".toList]

/-- A response to it with the Contact of this side. -/
def reInviteResponse (statusCode : Nat) : SipMessage :=
  { reInvite with
    isOutgoing := true, isRequest := false, statusCode, contacts := ["<sip:c>".toList] }

def inviteDelivery (msg : SipMessage) : Delivery := ⟨.invite, ⟨true, false, false⟩, msg⟩

/-- The dialog when the re-INVITE has arrived, and when it has been answered. -/
def reInvited : TargetRun where
  dialog := confirmedDialog.deliver (inviteDelivery reInvite)
  initial := confirmedDialog.remoteTarget
  requests := History.propose [] reInvite.viaBranch "<sip:b>".toList

def reInviteAnswered (statusCode : Nat) : TargetRun :=
  { reInvited with
    dialog := reInvited.dialog.deliver (inviteDelivery (reInviteResponse statusCode))
    requests := reInvited.answered (reInviteResponse statusCode) }

theorem step_reInvited :
    TargetStep ⟨confirmedDialog, confirmedDialog.remoteTarget, []⟩ (inviteDelivery reInvite)
      reInvited :=
  .request ⟨rfl, rfl, rfl⟩ (by decide) (by decide) rfl

theorem step_reInviteAnswered (statusCode : Nat) :
    TargetStep reInvited (inviteDelivery (reInviteResponse statusCode))
      (reInviteAnswered statusCode) := by
  have hbranch : reInvite.viaBranch ≠ [] := by decide
  exact .response ⟨rfl, rfl, rfl⟩ hbranch

theorem remoteTarget_followsAccepted_reInvite :
    (reInviteAnswered 200).FollowsAccepted ∧
      (reInviteAnswered 200).dialog.remoteTarget = "<sip:b>".toList := by
  have hinit : (refreshedDialogs.restrict MovesOnSuccess).Reachable
      ⟨confirmedDialog, confirmedDialog.remoteTarget, []⟩ :=
    .init ⟨by decide, rfl, rfl, rfl⟩
  have hrequest : MovesOnSuccess ⟨confirmedDialog, confirmedDialog.remoteTarget, []⟩
      (inviteDelivery reInvite) := by
    simp [MovesOnSuccess, inviteDelivery, reInvite, confirmedDialog]
  have hresponse : MovesOnSuccess reInvited (inviteDelivery (reInviteResponse 200)) := by
    have hstate : reInvited.dialog.state ≠ .terminated := by decide
    simp only [MovesOnSuccess, if_neg hstate]
    simp [inviteDelivery, reInviteResponse, isProvisional]
  have hreached := (hinit.step _ ⟨hrequest, step_reInvited⟩).step _
    ⟨hresponse, step_reInviteAnswered 200⟩
  exact ⟨(remoteTarget_followsAccepted hreached).1, by decide⟩

/-- A 180 to the re-INVITE has already moved the target. -/
theorem remoteTarget_moved_by_provisional :
    ∃ s, refreshedDialogs.Reachable s ∧ ¬ s.FollowsAccepted := by
  refine ⟨reInviteAnswered 180, ?_, ?_⟩
  · have hinit : refreshedDialogs.Reachable
        ⟨confirmedDialog, confirmedDialog.remoteTarget, []⟩ := .init ⟨by decide, rfl, rfl, rfl⟩
    exact (hinit.step _ step_reInvited).step _ (step_reInviteAnswered 180)
  · rintro ⟨htarget, -⟩
    revert htarget
    decide

end ImsStack.SipCore
