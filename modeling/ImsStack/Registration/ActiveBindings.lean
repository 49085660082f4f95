import ImsStack.Registration.ErrorListener

/-!
Which bindings of a registration listen: those in an active state, as long as the contacts
that they are given and lose keep up with their states.
-/

namespace ImsStack.RegBindings

open TransitionSystem RegBinding

universe u

variable {κ : Type u} [DecidableEq κ]

namespace RegBinding

/-- The binding holds a notifier exactly in the states that count as active. -/
def InStep (b : RegBinding κ) : Prop := b.scn.isSome = b.state.isActive

/-- What an update of a binding of the registration takes for granted: a binding that
becomes active has a contact, and one that does not become active has none to restore. -/
def FollowsUpdate (b : RegBinding κ) : BindingUpdate → Prop
  | .resultOk => b.state = .initPending → b.hasContact = true
  | .restoreActiveBindings =>
    if b.state = .initPending ∨ b.state = .created then b.hasContact = false
    else b.state.isActive = true ∨ b.hasContact = true
  | _ => True

/-- A contact that counts as active is given to a binding that is active, or that becomes so
because its de-registration failed; without its registration, to none of the latter. -/
def FollowsContact (b : RegBinding κ) (contact : Option Bool) : Prop :=
  contact = some true →
    if b.hasRegistration = true then
      b.state.isActive = true ∨ b.deregistrationFailed = true ∧ b.state = .terminated
    else ¬ (b.deregistrationFailed = true ∧ b.state = .terminated)

section InStep

variable {b : RegBinding κ} {s : Notifiers κ} {address : κ}

theorem create_inStep (hregistration : b.hasRegistration = true) (hcontact : b.hasContact = true)
    (hactive : b.state.isActive = true) :
    (b.createSipConnectionNotifier s address).1.InStep := by
  unfold InStep
  rw [create_scn hregistration hcontact, create_state, hactive]
  rfl

theorem destroy_inStep (hinactive : b.state.isActive = false) :
    (b.destroySipConnectionNotifier s).1.InStep := by
  unfold InStep
  rw [destroy_scn, destroy_state, hinactive]
  rfl

theorem create_inStep_of_active (h : b.InStep) (hactive : b.state.isActive = true) :
    (b.createSipConnectionNotifier s address).1.InStep := by
  by_cases hties : b.hasRegistration = false ∨ b.hasContact = false
  · rw [create_eq_self hties]
    exact h
  · rw [not_or, Bool.not_eq_false, Bool.not_eq_false] at hties
    exact create_inStep hties.1 hties.2 hactive

theorem restore_inStep (h : b.InStep) (hregistration : b.hasRegistration = true)
    (hfollows : b.FollowsUpdate .restoreActiveBindings) :
    (b.update s .restoreActiveBindings address).1.InStep := by
  unfold FollowsUpdate at hfollows
  unfold update
  rw [if_neg (by rw [hregistration]; decide)]
  cases hstate : b.state with
  | created =>
    rw [if_pos (Or.inr hstate)] at hfollows
    change (b.createSipConnectionNotifier s address).1.InStep
    rw [create_eq_self (Or.inr hfollows)]
    exact h
  | initPending =>
    rw [if_pos (Or.inl hstate)] at hfollows
    change (b.createSipConnectionNotifier s address).1.InStep
    rw [create_eq_self (Or.inr hfollows)]
    exact h
  | init =>
    rw [hstate, if_neg (by decide)] at hfollows
    have hcontact : b.hasContact = true := hfollows.resolve_left (by decide)
    exact create_inStep hregistration hcontact rfl
  | terminated =>
    rw [hstate, if_neg (by decide)] at hfollows
    have hcontact : b.hasContact = true := hfollows.resolve_left (by decide)
    exact create_inStep hregistration hcontact rfl
  | _ => exact create_inStep_of_active h (by rw [hstate]; rfl)

theorem update_inStep (h : b.InStep) {nWhat : BindingUpdate}
    (hfollows : b.hasRegistration = true → b.FollowsUpdate nWhat) :
    (b.update s nWhat address).1.InStep := by
  by_cases hregistration : b.hasRegistration = true
  · have hfollows := hfollows hregistration
    have hstep := h
    unfold InStep at h
    cases nWhat with
    | restoreActiveBindings => exact restore_inStep hstep hregistration hfollows
    | registering =>
      unfold update
      rw [if_neg (by rw [hregistration]; decide)]
      cases hstate : b.state with
      | init => rw [hstate] at h; exact h
      | active =>
        rw [hstate] at h
        cases hcontact : b.hasContact <;> exact h
      | _ => exact hstep
    | deregistering =>
      unfold update
      rw [if_neg (by rw [hregistration]; decide)]
      cases hstate : b.state with
      | active => rw [hstate] at h; exact h
      | _ => exact hstep
    | resultOk =>
      unfold update
      rw [if_neg (by rw [hregistration]; decide)]
      cases hstate : b.state with
      | initPending => exact create_inStep hregistration (hfollows hstate) rfl
      | activePending => rw [hstate] at h; exact h
      | activeTerminating => exact destroy_inStep rfl
      | _ => exact hstep
    | resultNok =>
      unfold update
      rw [if_neg (by rw [hregistration]; decide)]
      cases hstate : b.state with
      | initPending => rw [hstate] at h; exact h
      | activePending => rw [hstate] at h; exact h
      | activeTerminating => exact destroy_inStep rfl
      | _ => exact hstep
    | restore =>
      unfold update
      rw [if_neg (by rw [hregistration]; decide)]
      exact destroy_inStep rfl
    | destroyContact =>
      unfold update
      rw [if_neg (by rw [hregistration]; decide)]
      exact destroy_inStep rfl
    | destroy =>
      unfold update
      rw [if_neg (by rw [hregistration]; decide)]
      exact destroy_inStep rfl
  · unfold update
    rw [if_pos (Bool.eq_false_iff.mpr hregistration)]
    exact h

theorem updateContact_inStep (h : b.InStep) {contact : Option Bool}
    (hfollows : b.FollowsContact contact) : (b.updateContact s contact address).1.InStep := by
  have hset : (b.setContact contact.isSome).InStep := h
  unfold updateContact
  by_cases hcontact : contact = some true
  · rw [if_pos hcontact]
    have hfollows := hfollows hcontact
    by_cases hfailed : b.deregistrationFailed = true ∧ b.state = .terminated
    · have hregistration : b.hasRegistration = true := by
        by_contra hnone
        rw [if_neg hnone] at hfollows
        exact hfollows hfailed
      have hreactivate : (b.setContact contact.isSome).reactivate =
          { b.setContact contact.isSome with deregistrationFailed := false, state := .active } :=
        if_pos hfailed
      rw [hreactivate]
      exact create_inStep hregistration (congrArg Option.isSome hcontact) rfl
    · have hreactivate : (b.setContact contact.isSome).reactivate = b.setContact contact.isSome :=
        if_neg hfailed
      rw [hreactivate]
      by_cases hregistration : b.hasRegistration = true
      · rw [if_pos hregistration] at hfollows
        exact create_inStep_of_active hset (hfollows.resolve_right hfailed)
      · have hnone : (b.setContact contact.isSome).hasRegistration = false :=
          Bool.eq_false_iff.mpr hregistration
        rw [create_eq_self (Or.inl hnone)]
        exact hset
  · rw [if_neg hcontact]
    exact hset

end InStep

end RegBinding

/-- An event with contacts that keep up with the states of the bindings. -/
def ContactsFollow (r : Registration κ) : RegistrationEvent κ → Prop
  | .updateBindingState nWhat _ =>
    ∀ b ∈ r.bindings, b.hasRegistration = true → b.FollowsUpdate nWhat
  | .updateContact i contact _ =>
    ∀ b, r.bindings[i]? = some b → b.FollowsContact contact
  | _ => True

section Runs

variable {r : Registration κ}

/-- The bindings are in step, each one whatever the others do. -/
def AllInStep (bindings : List (RegBinding κ)) : Prop := ∀ b ∈ bindings, b.InStep

theorem updateLoop_inStep {nWhat : BindingUpdate} {address : Nat → κ}
    (bindings : List (RegBinding κ)) :
    ∀ s i, AllInStep bindings →
      (∀ b ∈ bindings, b.hasRegistration = true → b.FollowsUpdate nWhat) →
      AllInStep (updateLoop nWhat address i bindings s).1 := by
  induction bindings with
  | nil => exact fun _ _ h _ => h
  | cons b rest ih =>
    intro s i h hfollows c hc
    rcases List.mem_cons.mp hc with rfl | hc
    · exact update_inStep (h b List.mem_cons_self) (hfollows b List.mem_cons_self)
    · exact ih _ (i + 1) (fun d hd => h d (List.mem_cons_of_mem b hd))
        (fun d hd => hfollows d (List.mem_cons_of_mem b hd)) c hc

theorem handle_inStep (h : AllInStep r.bindings) {e : RegistrationEvent κ}
    (hfollows : ContactsFollow r e) : AllInStep (r.handle e).bindings := by
  cases e with
  | createBinding =>
    intro b hb
    rcases List.mem_append.mp hb with hb | hb
    · exact h b hb
    · rw [List.mem_singleton.mp hb]
      rfl
  | updateBindingState nWhat address =>
    exact updateLoop_inStep r.bindings r.notifiers 0 h hfollows
  | updateContact i contact address =>
    change AllInStep (r.updateContact i contact address).bindings
    cases hi : r.bindings[i]? with
    | none =>
      rw [Registration.updateContact, hi]
      exact h
    | some b =>
      rw [updateContact_some hi]
      intro c hc
      rcases List.mem_or_eq_of_mem_set hc with hc | rfl
      · exact h c hc
      · exact updateContact_inStep (h b (List.mem_of_getElem? hi)) (hfollows b hi)
  | destroyBinding i =>
    change AllInStep (r.destroyBinding i).bindings
    cases hi : r.bindings[i]? with
    | none =>
      rw [Registration.destroyBinding, hi]
      exact h
    | some b =>
      rw [destroyBinding_some hi]
      exact fun c hc => h c (List.mem_of_mem_eraseIdx hc)
  | changeOutside n references => exact h

theorem inStep_of_reachable (hr : ((registrationSystem κ).restrict ContactsFollow).Reachable r) :
    AllInStep r.bindings := by
  refine System.Reachable.restrict_invariant (I := fun r => AllInStep r.bindings) ?_ ?_ hr
  · rintro r ⟨hbindings, -⟩
    rw [hbindings]
    exact fun b hb => absurd hb List.not_mem_nil
  · rintro r e r' h hfollows rfl
    exact handle_inStep h hfollows

end Runs

/-- Over all runs, the count of the error listener and the references to the notifiers are
those of the bindings.  As long as all of them use one notifier at a time, the registration
listens to what they hold; as long as the contacts follow the states, the bindings that hold
a notifier are the active ones. -/
theorem bindings_listen (κ : Type u) [DecidableEq κ] :
    (∀ r, (registrationSystem κ).Reachable r →
      r.notifiers.refCountForScnErrorListener = holders r.bindings ∧
        ∀ n, r.notifiers.obtained n = r.notifiers.released n + holdersOf n r.bindings) ∧
    (∀ r, ((registrationSystem κ).restrict OneNotifier).Reachable r →
      ∀ n, r.notifiers.listening n = true ↔ ∃ b ∈ r.bindings, b.scn = some n) ∧
    ∀ r, ((registrationSystem κ).restrict ContactsFollow).Reachable r →
      ∀ b ∈ r.bindings, b.scn.isSome = true ↔ b.state.isActive = true := by
  refine ⟨fun r hr => ?_, fun r hr => listensToHeld_of_reachable hr, fun r hr b hb => ?_⟩
  · have h := balanced_of_reachable hr
    exact ⟨h.count, h.obtained⟩
  · have h : b.scn.isSome = b.state.isActive := inStep_of_reachable hr b hb
    rw [h]

/-- A registration without bindings and notifiers. -/
def noBindings : Registration Nat where
  bindings := []
  notifiers :=
    { refCountForScnErrorListener := 0, obtained := fun _ => 0, released := fun _ => 0,
      outside := fun _ => 0, listening := fun _ => false }

/-- A registered binding whose contact changes from address 1 to address 2. -/
def movedBinding : Registration Nat :=
  ((((noBindings.handle .createBinding).handle (.updateContact 0 (some false) 1)).handle
    (.updateBindingState .registering fun _ => 1)).handle
    (.updateBindingState .resultOk fun _ => 1)).handle (.updateContact 0 (some true) 2)

/-- After its address has changed, a binding holds a notifier that the registration does not
listen to; and one that has never been registered gets a notifier with an active contact. -/
theorem not_bindings_listen :
    (∃ r, (registrationSystem Nat).Reachable r ∧ ∃ b ∈ r.bindings, ∃ n,
      b.scn = some n ∧ r.notifiers.listening n = false) ∧
    ∃ r, (registrationSystem Nat).Reachable r ∧ ∃ b ∈ r.bindings,
      b.scn.isSome = true ∧ b.state.isActive = false := by
  have hinit : (registrationSystem Nat).Reachable noBindings :=
    .init ⟨rfl, rfl, fun _ => rfl, fun _ => rfl, fun _ => rfl⟩
  have hcreated := hinit.step .createBinding rfl
  constructor
  · have hbound := hcreated.step (.updateContact 0 (some false) 1) rfl
    have hregistering := hbound.step (.updateBindingState .registering fun _ => 1) rfl
    have hregistered := hregistering.step (.updateBindingState .resultOk fun _ => 1) rfl
    have hmoved := hregistered.step (.updateContact 0 (some true) 2) rfl
    exact ⟨movedBinding, hmoved, _, List.mem_singleton.mpr rfl, 2, rfl, rfl⟩
  · exact ⟨_, hcreated.step (.updateContact 0 (some true) 1) rfl, _,
      List.mem_singleton.mpr rfl, rfl, rfl⟩

end ImsStack.RegBindings
