import ImsStack.Registration.RegBinding
import Mathlib.Data.List.Count
import Mathlib.Tactic.ByContra

/-!
Over all runs of a registration: the count of the error listener and the references to the
notifiers.  Over the runs without a change of the notifier: who listens.  Over the runs in
which the contacts are in step with the bindings: which bindings listen.
-/

namespace ImsStack.RegBindings

open TransitionSystem

universe u

variable {κ : Type u} [DecidableEq κ]

namespace RegBinding

/-- A binding without a registration listens on nothing. -/
def IsTied (b : RegBinding κ) : Prop := b.hasRegistration = false → b.scn = none

/-- An update makes the binding ask for a notifier. -/
def Obtains (b : RegBinding κ) (nWhat : BindingUpdate) : Prop :=
  b.hasRegistration = true ∧ b.hasContact = true ∧
    (nWhat = .resultOk ∧ b.state = .initPending ∨ nWhat = .restoreActiveBindings)

/-- What one call can do with the notifier of a binding, and so with what is shared. -/
inductive Exchange (b : RegBinding κ) (s : Notifiers κ) (address : κ) (wanted : Prop) :
    RegBinding κ → Notifiers κ → Prop where
  | keeps {b' : RegBinding κ} : b'.scn = b.scn → Exchange b s address wanted b' s
  | obtains {b' : RegBinding κ} : wanted → b.scn = none → b'.scn = some address →
      Exchange b s address wanted b' ((s.createConnectionNotifier address).countNew address)
  | renews {b' : RegBinding κ} : wanted → b.scn = some address → b'.scn = some address →
      Exchange b s address wanted b'
        ((s.createConnectionNotifier address).releaseConnectionNotifier address)
  | swaps {b' : RegBinding κ} (piTempScn : κ) : wanted → b.scn = some piTempScn →
      address ≠ piTempScn → b'.scn = some address →
      Exchange b s address wanted b'
        ((((s.createConnectionNotifier address).countNew address)
          |>.removeReferenceForScnErrorListener).releaseConnectionNotifier piTempScn)
  | frees {b' : RegBinding κ} (n : κ) : b.scn = some n → b'.scn = none →
      Exchange b s address wanted b'
        ((s.removeReferenceForScnErrorListener.removeErrorListenerIfLast n)
          |>.releaseConnectionNotifier n)

section Exchange

variable {b b' c : RegBinding κ} {s s' : Notifiers κ} {address : κ} {wanted wanted' : Prop}

theorem Exchange.congr (h : Exchange b s address wanted b' s') {d : RegBinding κ}
    (hbefore : c.scn = b.scn) (hafter : d.scn = b'.scn) (hwanted : wanted → wanted') :
    Exchange c s address wanted' d s' := by
  cases h with
  | keeps hscn => exact .keeps (hafter.trans (hscn.trans hbefore.symm))
  | obtains hw hb hb' => exact .obtains (hwanted hw) (hbefore.trans hb) (hafter.trans hb')
  | renews hw hb hb' => exact .renews (hwanted hw) (hbefore.trans hb) (hafter.trans hb')
  | swaps piTempScn hw hb hne hb' =>
    exact .swaps piTempScn (hwanted hw) (hbefore.trans hb) hne (hafter.trans hb')
  | frees n hb hb' => exact .frees n (hbefore.trans hb) (hafter.trans hb')

theorem create_eq_self (h : b.hasRegistration = false ∨ b.hasContact = false) :
    b.createSipConnectionNotifier s address = (b, s) := by
  rw [createSipConnectionNotifier, if_pos h]

theorem create_exchange :
    Exchange b s address (b.hasRegistration = true ∧ b.hasContact = true)
      (b.createSipConnectionNotifier s address).1
      (b.createSipConnectionNotifier s address).2 := by
  by_cases h : b.hasRegistration = false ∨ b.hasContact = false
  · rw [create_eq_self h]
    exact .keeps rfl
  · have hwanted : b.hasRegistration = true ∧ b.hasContact = true := by
      simpa only [not_or, Bool.not_eq_false] using h
    unfold createSipConnectionNotifier
    rw [if_neg h]
    cases hscn : b.scn with
    | none => exact .obtains hwanted hscn rfl
    | some piTempScn =>
      by_cases hne : address ≠ piTempScn
      · simp only [if_pos hne]
        exact .swaps piTempScn hwanted hscn hne rfl
      · have heq : address = piTempScn := not_not.mp hne
        simp only [if_neg hne]
        rw [← heq] at hscn ⊢
        exact .renews hwanted hscn rfl

theorem create_hasRegistration :
    (b.createSipConnectionNotifier s address).1.hasRegistration = b.hasRegistration := by
  unfold createSipConnectionNotifier
  split
  · rfl
  · split
    · rfl
    · split <;> rfl

theorem create_state : (b.createSipConnectionNotifier s address).1.state = b.state := by
  unfold createSipConnectionNotifier
  split
  · rfl
  · split
    · rfl
    · split <;> rfl

theorem create_scn (hregistration : b.hasRegistration = true) (hcontact : b.hasContact = true) :
    (b.createSipConnectionNotifier s address).1.scn = some address := by
  unfold createSipConnectionNotifier
  rw [if_neg (by rw [hregistration, hcontact]; decide)]
  split
  · rfl
  · split <;> rfl

theorem destroy_exchange (h : b.IsTied) :
    Exchange b s address wanted (b.destroySipConnectionNotifier s).1
      (b.destroySipConnectionNotifier s).2 := by
  unfold destroySipConnectionNotifier
  cases hscn : b.scn with
  | none => exact .keeps rfl
  | some n =>
    cases hregistration : b.hasRegistration with
    | false => exact absurd ((h hregistration).symm.trans hscn) (Option.some_ne_none n).symm
    | true => exact .frees n hscn rfl

theorem destroy_scn : (b.destroySipConnectionNotifier s).1.scn = none := by
  unfold destroySipConnectionNotifier
  split
  · assumption
  · rfl

theorem destroy_state : (b.destroySipConnectionNotifier s).1.state = b.state := by
  unfold destroySipConnectionNotifier
  split <;> rfl

/-- Two bindings that differ in their state and the failed de-registration only. -/
structure SameTies (b c : RegBinding κ) : Prop where
  hasRegistration : c.hasRegistration = b.hasRegistration
  hasContact : c.hasContact = b.hasContact
  scn : c.scn = b.scn

/-- What an update comes to. -/
inductive UpdateShape (b : RegBinding κ) (s : Notifiers κ) (nWhat : BindingUpdate)
    (address : κ) : RegBinding κ × Notifiers κ → Prop where
  | moves {c : RegBinding κ} : SameTies b c → UpdateShape b s nWhat address (c, s)
  | creates {c : RegBinding κ} : SameTies b c →
      (b.hasRegistration = true → b.hasContact = true → b.Obtains nWhat) →
      UpdateShape b s nWhat address (c.createSipConnectionNotifier s address)
  | destroys {c : RegBinding κ} : SameTies b c →
      UpdateShape b s nWhat address (c.destroySipConnectionNotifier s)
  | leaves {c : RegBinding κ} : SameTies b c →
      UpdateShape b s nWhat address
        ((c.destroySipConnectionNotifier s).1.leave, (c.destroySipConnectionNotifier s).2)

omit [DecidableEq κ] in
theorem sameTies_refl : SameTies b b := ⟨rfl, rfl, rfl⟩

omit [DecidableEq κ] in
theorem sameTies_setState {state : BindingState} : SameTies b (b.setState state) :=
  ⟨rfl, rfl, rfl⟩

theorem update_shape (b : RegBinding κ) (s : Notifiers κ) (nWhat : BindingUpdate)
    (address : κ) : UpdateShape b s nWhat address (b.update s nWhat address) := by
  unfold update
  by_cases hregistration : b.hasRegistration = false
  · rw [if_pos hregistration]
    exact .moves sameTies_refl
  · have hrestore : b.hasRegistration = true → b.hasContact = true →
        b.Obtains .restoreActiveBindings := fun hr hc => ⟨hr, hc, Or.inr rfl⟩
    rw [if_neg hregistration]
    cases nWhat with
    | registering => cases b.state <;> exact .moves ⟨rfl, rfl, rfl⟩
    | deregistering => cases b.state <;> exact .moves ⟨rfl, rfl, rfl⟩
    | resultOk =>
      cases hstate : b.state with
      | initPending =>
        exact .creates sameTies_setState fun hr hc => ⟨hr, hc, Or.inl ⟨rfl, hstate⟩⟩
      | activeTerminating => exact .destroys sameTies_setState
      | _ => exact .moves ⟨rfl, rfl, rfl⟩
    | resultNok =>
      cases hstate : b.state with
      | activeTerminating => exact .destroys ⟨rfl, rfl, rfl⟩
      | _ => exact .moves ⟨rfl, rfl, rfl⟩
    | restore => exact .destroys ⟨rfl, rfl, rfl⟩
    | restoreActiveBindings =>
      cases hstate : b.state with
      | init => exact .creates sameTies_setState hrestore
      | terminated => exact .creates sameTies_setState hrestore
      | _ => exact .creates sameTies_refl hrestore
    | destroyContact => exact .destroys sameTies_setState
    | destroy => exact .leaves sameTies_setState

omit [DecidableEq κ] in
theorem SameTies.isTied (h : SameTies b c) (hb : b.IsTied) : c.IsTied :=
  fun hregistration => h.scn.trans (hb (h.hasRegistration.symm.trans hregistration))

theorem create_isTied (h : b.IsTied) : (b.createSipConnectionNotifier s address).1.IsTied := by
  intro hregistration
  rw [create_hasRegistration] at hregistration
  rw [create_eq_self (Or.inl hregistration)]
  exact h hregistration

theorem update_exchange (h : b.IsTied) (nWhat : BindingUpdate) :
    Exchange b s address (b.Obtains nWhat) (b.update s nWhat address).1
      (b.update s nWhat address).2 := by
  have hshape := update_shape b s nWhat address
  generalize b.update s nWhat address = result at hshape ⊢
  cases hshape with
  | moves hsame => exact .keeps hsame.scn
  | creates hsame hobtains =>
    refine create_exchange.congr hsame.scn.symm rfl ?_
    rintro ⟨hregistration, hcontact⟩
    exact hobtains (hsame.hasRegistration.symm.trans hregistration)
      (hsame.hasContact.symm.trans hcontact)
  | destroys hsame => exact (destroy_exchange (hsame.isTied h)).congr hsame.scn.symm rfl id
  | leaves hsame => exact (destroy_exchange (hsame.isTied h)).congr hsame.scn.symm rfl id

theorem update_isTied (h : b.IsTied) (nWhat : BindingUpdate) :
    (b.update s nWhat address).1.IsTied := by
  have hshape := update_shape b s nWhat address
  generalize b.update s nWhat address = result at hshape ⊢
  cases hshape with
  | moves hsame => exact hsame.isTied h
  | creates hsame => exact create_isTied (hsame.isTied h)
  | destroys hsame => exact fun _ => destroy_scn
  | leaves hsame => exact fun _ => destroy_scn

omit [DecidableEq κ] in
theorem reactivate_sameTies : SameTies b b.reactivate := by
  unfold reactivate
  split <;> exact ⟨rfl, rfl, rfl⟩

theorem updateContact_exchange (contact : Option Bool) :
    Exchange b s address (contact = some true ∧ b.hasRegistration = true)
      (b.updateContact s contact address).1 (b.updateContact s contact address).2 := by
  unfold updateContact
  by_cases hcontact : contact = some true
  · rw [if_pos hcontact]
    have hsame : SameTies (b.setContact contact.isSome) (b.setContact contact.isSome).reactivate :=
      reactivate_sameTies
    refine create_exchange.congr hsame.scn.symm rfl ?_
    exact fun hwanted => ⟨hcontact, hsame.hasRegistration.symm.trans hwanted.1⟩
  · rw [if_neg hcontact]
    exact .keeps rfl

theorem updateContact_isTied (h : b.IsTied) (contact : Option Bool) :
    (b.updateContact s contact address).1.IsTied := by
  have hcontact : (b.setContact contact.isSome).IsTied := h
  unfold updateContact
  split
  · exact create_isTied (reactivate_sameTies.isTied hcontact)
  · exact hcontact

end Exchange

end RegBinding

open RegBinding

section Notifiers

variable {s : Notifiers κ} {n m : κ}

theorem setAt_self {α : Type} (f : κ → α) (n : κ) (value : α) : setAt f n value n = value :=
  if_pos rfl

theorem setAt_of_ne {α : Type} (f : κ → α) {n m : κ} (value : α) (h : m ≠ n) :
    setAt f n value m = f m := if_neg h

@[simp] theorem closeIfUnused_refCount :
    (s.closeIfUnused n).refCountForScnErrorListener = s.refCountForScnErrorListener := by
  unfold Notifiers.closeIfUnused
  split <;> rfl

@[simp] theorem closeIfUnused_obtained : (s.closeIfUnused n).obtained = s.obtained := by
  unfold Notifiers.closeIfUnused
  split <;> rfl

@[simp] theorem closeIfUnused_released : (s.closeIfUnused n).released = s.released := by
  unfold Notifiers.closeIfUnused
  split <;> rfl

@[simp] theorem release_refCount :
    (s.releaseConnectionNotifier n).refCountForScnErrorListener =
      s.refCountForScnErrorListener := closeIfUnused_refCount

@[simp] theorem release_obtained :
    (s.releaseConnectionNotifier n).obtained = s.obtained := closeIfUnused_obtained

@[simp] theorem release_released :
    (s.releaseConnectionNotifier n).released = setAt s.released n (s.released n + 1) :=
  closeIfUnused_released

@[simp] theorem countNew_refCount :
    (s.countNew n).refCountForScnErrorListener = s.refCountForScnErrorListener + 1 := by
  unfold Notifiers.countNew Notifiers.addErrorListenerIfFirst
  split <;> rfl

@[simp] theorem countNew_obtained : (s.countNew n).obtained = s.obtained := by
  unfold Notifiers.countNew Notifiers.addErrorListenerIfFirst
  split <;> rfl

@[simp] theorem countNew_released : (s.countNew n).released = s.released := by
  unfold Notifiers.countNew Notifiers.addErrorListenerIfFirst
  split <;> rfl

@[simp] theorem removeErrorListenerIfLast_refCount :
    (s.removeErrorListenerIfLast n).refCountForScnErrorListener =
      s.refCountForScnErrorListener := by
  unfold Notifiers.removeErrorListenerIfLast
  split <;> rfl

@[simp] theorem removeErrorListenerIfLast_obtained :
    (s.removeErrorListenerIfLast n).obtained = s.obtained := by
  unfold Notifiers.removeErrorListenerIfLast
  split <;> rfl

@[simp] theorem removeErrorListenerIfLast_outside :
    (s.removeErrorListenerIfLast n).outside = s.outside := by
  unfold Notifiers.removeErrorListenerIfLast
  split <;> rfl

@[simp] theorem removeErrorListenerIfLast_released :
    (s.removeErrorListenerIfLast n).released = s.released := by
  unfold Notifiers.removeErrorListenerIfLast
  split <;> rfl

omit [DecidableEq κ] in
@[simp] theorem removeReference_refCount :
    s.removeReferenceForScnErrorListener.refCountForScnErrorListener =
      s.refCountForScnErrorListener - 1 := rfl

omit [DecidableEq κ] in
@[simp] theorem removeReference_obtained :
    s.removeReferenceForScnErrorListener.obtained = s.obtained := rfl

omit [DecidableEq κ] in
@[simp] theorem removeReference_released :
    s.removeReferenceForScnErrorListener.released = s.released := rfl

@[simp] theorem create_refCount :
    (s.createConnectionNotifier n).refCountForScnErrorListener =
      s.refCountForScnErrorListener := rfl

@[simp] theorem create_obtained :
    (s.createConnectionNotifier n).obtained = setAt s.obtained n (s.obtained n + 1) := rfl

@[simp] theorem create_released : (s.createConnectionNotifier n).released = s.released := rfl

end Notifiers

/-- How many bindings hold a notifier. -/
def holders (bindings : List (RegBinding κ)) : Nat := bindings.countP fun b => b.scn.isSome

/-- How many bindings hold this notifier. -/
def holdersOf (n : κ) (bindings : List (RegBinding κ)) : Nat :=
  bindings.countP fun b => decide (b.scn = some n)

/-- The count of the error listener is the number of bindings that hold a notifier, and
what was obtained and not released is what the bindings hold. -/
structure Balanced (bindings : List (RegBinding κ)) (s : Notifiers κ) : Prop where
  count : s.refCountForScnErrorListener = holders bindings
  obtained : ∀ n, s.obtained n = s.released n + holdersOf n bindings
  tied : ∀ b ∈ bindings, b.IsTied

section Balanced

variable {before after : List (RegBinding κ)} {b b' : RegBinding κ} {s s' : Notifiers κ}
  {address : κ} {wanted : Prop}

omit [DecidableEq κ] in
theorem holders_append_cons :
    holders (before ++ b :: after) =
      holders before + holders after + if b.scn.isSome then 1 else 0 := by
  unfold holders
  rw [List.countP_append, List.countP_cons, Nat.add_assoc]

theorem holdersOf_append_cons (n : κ) :
    holdersOf n (before ++ b :: after) =
      holdersOf n before + holdersOf n after + if b.scn = some n then 1 else 0 := by
  unfold holdersOf
  rw [List.countP_append, List.countP_cons, Nat.add_assoc]
  simp only [decide_eq_true_eq]

theorem Balanced.exchange (h : Balanced (before ++ b :: after) s)
    (hexchange : Exchange b s address wanted b' s') (htied : b'.IsTied) :
    Balanced (before ++ b' :: after) s' := by
  have hcount := h.count
  rw [holders_append_cons] at hcount
  have hobtained (n : κ) := h.obtained n
  simp only [holdersOf_append_cons] at hobtained
  refine ⟨?_, fun n => ?_, ?_⟩
  · rw [holders_append_cons]
    cases hexchange with
    | keeps hscn => rw [hscn, hcount]
    | obtains _ hb hb' =>
      rw [hb] at hcount
      simp [hb', hcount]
    | renews _ hb hb' =>
      rw [hb] at hcount
      simp [hb', hcount]
    | swaps _ _ hb _ hb' =>
      rw [hb] at hcount
      simp [hb', hcount]
    | frees _ hb hb' =>
      rw [hb] at hcount
      simp [hb', hcount]
  · have hn := hobtained n
    rw [holdersOf_append_cons]
    cases hexchange with
    | keeps hscn => rw [hscn, hn]
    | obtains _ hb hb' =>
      simp only [hb, reduceCtorEq, if_false] at hn
      by_cases hne : n = address
      · subst hne
        simp [setAt_self, hb', hn, Nat.add_assoc]
      · simp [setAt_of_ne _ _ hne, hb', hn, Ne.symm hne]
    | renews _ hb hb' =>
      by_cases hne : n = address
      · subst hne
        simp only [hb, if_true] at hn
        simp [setAt_self, hb', hn, Nat.add_assoc, Nat.add_comm, Nat.add_left_comm]
      · simp only [hb, Option.some.injEq, Ne.symm hne, if_false] at hn
        simp [setAt_of_ne _ _ hne, hb', hn, Ne.symm hne]
    | swaps old _ hb hswap hb' =>
      by_cases hne : n = address
      · subst hne
        simp only [hb, Option.some.injEq, Ne.symm hswap, if_false] at hn
        simp [setAt_self, setAt_of_ne _ _ hswap, hb', hn, Nat.add_assoc]
      · by_cases hold : n = old
        · subst hold
          simp only [hb, if_true] at hn
          simp [setAt_self, setAt_of_ne _ _ hne, hb', hn, hswap, Nat.add_assoc, Nat.add_comm,
            Nat.add_left_comm]
        · simp only [hb, Option.some.injEq, Ne.symm hold, if_false] at hn
          simp [setAt_of_ne _ _ hne, setAt_of_ne _ _ hold, hb', hn, Ne.symm hne]
    | frees freed hb hb' =>
      by_cases hne : n = freed
      · subst hne
        simp only [hb, if_true] at hn
        simp [setAt_self, hb', hn, Nat.add_assoc, Nat.add_comm, Nat.add_left_comm]
      · simp only [hb, Option.some.injEq, Ne.symm hne, if_false] at hn
        simp [setAt_of_ne _ _ hne, hb', hn]
  · intro c hc
    rcases List.mem_append.mp hc with hc | hc
    · exact h.tied c (List.mem_append_left _ hc)
    · rcases List.mem_cons.mp hc with rfl | hc
      · exact htied
      · exact h.tied c (List.mem_append_right _ (List.mem_cons_of_mem b hc))

omit [DecidableEq κ] in
theorem holders_append_nil (hb : b.scn = none) :
    holders (before ++ b :: after) = holders (before ++ after) := by
  rw [holders_append_cons, hb]
  unfold holders
  rw [List.countP_append]
  rfl

theorem holdersOf_append_nil (hb : b.scn = none) (n : κ) :
    holdersOf n (before ++ b :: after) = holdersOf n (before ++ after) := by
  rw [holdersOf_append_cons, hb]
  unfold holdersOf
  rw [List.countP_append]
  rfl

theorem balanced_append_nil (hb : b.scn = none) :
    Balanced (before ++ b :: after) s ↔ Balanced (before ++ after) s := by
  constructor
  · intro h
    refine ⟨?_, fun n => ?_, fun c hc => h.tied c ?_⟩
    · rw [h.count, holders_append_nil hb]
    · rw [h.obtained, holdersOf_append_nil hb]
    · rcases List.mem_append.mp hc with hc | hc
      · exact List.mem_append_left _ hc
      · exact List.mem_append_right _ (List.mem_cons_of_mem b hc)
  · intro h
    refine ⟨?_, fun n => ?_, ?_⟩
    · rw [h.count, holders_append_nil hb]
    · rw [h.obtained, holdersOf_append_nil hb]
    · intro c hc
      rcases List.mem_append.mp hc with hc | hc
      · exact h.tied c (List.mem_append_left _ hc)
      · rcases List.mem_cons.mp hc with rfl | hc
        · exact fun _ => hb
        · exact h.tied c (List.mem_append_right _ hc)

theorem Balanced.closeIfUnused {bindings : List (RegBinding κ)} (h : Balanced bindings s)
    {outside : κ → Nat} {n : κ} :
    Balanced bindings (Notifiers.closeIfUnused { s with outside := outside } n) := by
  refine ⟨?_, fun m => ?_, h.tied⟩
  · rw [closeIfUnused_refCount]
    exact h.count
  · rw [closeIfUnused_obtained, closeIfUnused_released]
    exact h.obtained m

end Balanced

section Heard

variable {before after bindings : List (RegBinding κ)} {b b' : RegBinding κ}
  {s s' : Notifiers κ} {address : κ} {wanted : Prop} {P : κ → Prop}

/-- All bindings that hold a notifier hold the one that `P` names, and the registration
listens to it as long as one of them does, and to no other. -/
structure Heard (P : κ → Prop) (bindings : List (RegBinding κ)) (s : Notifiers κ) : Prop where
  balanced : Balanced bindings s
  held : ∀ b ∈ bindings, ∀ n, b.scn = some n → P n
  listening : ∀ n, s.listening n = true ↔ P n ∧ 0 < s.refCountForScnErrorListener

theorem Heard.holdersOf_eq (h : Heard P bindings s) (hP : ∀ n m, P n → P m → n = m) {n : κ}
    (hn : P n) : holdersOf n bindings = holders bindings := by
  unfold holdersOf holders
  refine List.countP_congr fun b hb => ?_
  rw [decide_eq_true_eq]
  constructor
  · intro hscn
    rw [hscn]
    rfl
  · intro hsome
    obtain ⟨m, hm⟩ := Option.isSome_iff_exists.mp hsome
    rw [hm, hP m n (h.held b hb m hm) hn]

theorem closeIfUnused_listening {n m : κ} :
    (s.closeIfUnused n).listening m = true ↔
      s.listening m = true ∧ (m = n → s.references n ≠ 0) := by
  unfold Notifiers.closeIfUnused
  by_cases hunused : s.references n = 0
  · rw [if_pos hunused]
    by_cases hm : m = n
    · rw [hm]
      change setAt s.listening n false n = true ↔ _
      rw [setAt_self]
      exact ⟨fun h => Bool.noConfusion h, fun h => absurd hunused (h.2 rfl)⟩
    · change setAt s.listening n false m = true ↔ _
      rw [setAt_of_ne _ _ hm]
      exact ⟨fun h => ⟨h, fun h => absurd h hm⟩, And.left⟩
  · rw [if_neg hunused]
    exact ⟨fun h => ⟨h, fun _ => hunused⟩, And.left⟩

theorem release_listening {n m : κ} :
    (s.releaseConnectionNotifier n).listening m = true ↔
      s.listening m = true ∧
        (m = n → s.outside n + s.obtained n - (s.released n + 1) ≠ 0) := by
  unfold Notifiers.releaseConnectionNotifier
  rw [closeIfUnused_listening]
  simp only [Notifiers.references, setAt_self]

theorem countNew_listening {n m : κ} :
    (s.countNew n).listening m = true ↔
      s.listening m = true ∨ m = n ∧ s.refCountForScnErrorListener = 0 := by
  unfold Notifiers.countNew Notifiers.addErrorListenerIfFirst
    Notifiers.addReferenceForScnErrorListener
  by_cases hfirst : s.refCountForScnErrorListener + 1 = 1
  · rw [if_pos hfirst]
    by_cases hm : m = n
    · rw [hm]
      change setAt s.listening n true n = true ↔ _
      rw [setAt_self]
      exact ⟨fun _ => Or.inr ⟨rfl, Nat.succ.inj hfirst⟩, fun _ => rfl⟩
    · change setAt s.listening n true m = true ↔ _
      rw [setAt_of_ne _ _ hm]
      exact ⟨Or.inl, fun h => h.resolve_right fun hmn => hm hmn.1⟩
  · rw [if_neg hfirst]
    exact ⟨Or.inl, fun h => h.resolve_right fun hmn => hfirst (congrArg (· + 1) hmn.2)⟩

theorem removeErrorListenerIfLast_listening {n m : κ} :
    (s.removeErrorListenerIfLast n).listening m = true ↔
      s.listening m = true ∧ (m = n → s.refCountForScnErrorListener ≠ 0) := by
  unfold Notifiers.removeErrorListenerIfLast
  by_cases hlast : s.refCountForScnErrorListener = 0
  · rw [if_pos hlast]
    by_cases hm : m = n
    · rw [hm]
      change setAt s.listening n false n = true ↔ _
      rw [setAt_self]
      exact ⟨fun h => Bool.noConfusion h, fun h => absurd hlast (h.2 rfl)⟩
    · change setAt s.listening n false m = true ↔ _
      rw [setAt_of_ne _ _ hm]
      exact ⟨fun h => ⟨h, fun h => absurd h hm⟩, And.left⟩
  · rw [if_neg hlast]
    exact ⟨fun h => ⟨h, fun _ => hlast⟩, And.left⟩

/-- A binding obtains, renews or frees the one notifier, and who listens follows. -/
theorem Heard.exchange (h : Heard P (before ++ b :: after) s)
    (hP : ∀ n m, P n → P m → n = m)
    (hexchange : Exchange b s address wanted b' s') (hwanted : wanted → P address)
    (htied : b'.IsTied) : Heard P (before ++ b' :: after) s' := by
  have hb : b ∈ before ++ b :: after := List.mem_append_right _ List.mem_cons_self
  have hothers (n : κ) (hn : b'.scn = some n → P n) :
      ∀ c ∈ before ++ b' :: after, c.scn = some n → P n := by
    intro c hc hscn
    rcases List.mem_append.mp hc with hc | hc
    · exact h.held c (List.mem_append_left _ hc) n hscn
    · rcases List.mem_cons.mp hc with rfl | hc
      · exact hn hscn
      · exact h.held c (List.mem_append_right _ (List.mem_cons_of_mem b hc)) n hscn
  refine ⟨h.balanced.exchange hexchange htied, fun c hc n => hothers n ?_ c hc, fun n => ?_⟩
  · intro hscn
    cases hexchange with
    | keeps hsame => exact h.held b hb n (hsame.symm.trans hscn)
    | obtains hw _ hb' => exact Option.some.inj (hb'.symm.trans hscn) ▸ hwanted hw
    | renews hw _ hb' => exact Option.some.inj (hb'.symm.trans hscn) ▸ hwanted hw
    | swaps _ hw _ _ hb' => exact Option.some.inj (hb'.symm.trans hscn) ▸ hwanted hw
    | frees _ _ hb' => exact absurd (hscn.symm.trans hb') (Option.some_ne_none n)
  · cases hexchange with
    | keeps _ => exact h.listening n
    | obtains hw _ _ =>
      rw [countNew_listening, countNew_refCount]
      change s.listening n = true ∨ n = address ∧ s.refCountForScnErrorListener = 0 ↔ _
      rw [h.listening n]
      constructor
      · rintro (⟨hn, -⟩ | ⟨rfl, -⟩)
        · exact ⟨hn, Nat.succ_pos _⟩
        · exact ⟨hwanted hw, Nat.succ_pos _⟩
      · rintro ⟨hn, -⟩
        rcases Nat.eq_zero_or_pos s.refCountForScnErrorListener with hzero | hpos
        · exact Or.inr ⟨hP n address hn (hwanted hw), hzero⟩
        · exact Or.inl ⟨hn, hpos⟩
    | renews hw hscn _ =>
      -- the binding goes on holding the notifier, so it is not closed
      rw [release_refCount, release_listening]
      have hused : 0 < holdersOf address (before ++ b :: after) := by
        rw [holdersOf_append_cons, if_pos hscn]
        exact Nat.succ_pos _
      have hobtained := h.balanced.obtained address
      refine ⟨fun hn => (h.listening n).mp hn.1, fun hn => ⟨(h.listening n).mpr hn, fun _ => ?_⟩⟩
      rw [create_obtained, create_released, setAt_self]
      change s.outside address + (s.obtained address + 1) - (s.released address + 1) ≠ 0
      omega
    | swaps old hw hscn hne _ =>
      exact absurd (hP address old (hwanted hw) (h.held b hb old hscn)) hne
    | frees freed hscn _ =>
      have hfreed : P freed := h.held b hb freed hscn
      have hcount : s.refCountForScnErrorListener = holdersOf freed (before ++ b :: after) := by
        rw [h.holdersOf_eq hP hfreed, h.balanced.count]
      have hobtained := h.balanced.obtained freed
      rw [release_refCount, release_listening, removeErrorListenerIfLast_listening,
        removeErrorListenerIfLast_refCount, removeErrorListenerIfLast_outside,
        removeErrorListenerIfLast_obtained, removeErrorListenerIfLast_released,
        removeReference_refCount]
      change (s.listening n = true ∧ _) ∧
        (n = freed → s.outside freed + s.obtained freed - (s.released freed + 1) ≠ 0) ↔ _
      rw [h.listening n]
      constructor
      · rintro ⟨⟨⟨hn, hpos⟩, hlast⟩, -⟩
        exact ⟨hn, Nat.pos_of_ne_zero (hlast (hP n freed hn hfreed))⟩
      · rintro ⟨hn, hpos⟩
        exact ⟨⟨⟨hn, by omega⟩, fun _ => by omega⟩, fun _ => by omega⟩

end Heard

section Runs

variable {r : Registration κ} {bindings : List (RegBinding κ)} {s : Notifiers κ}

omit [DecidableEq κ] in
theorem exists_around {i : Nat} {b : RegBinding κ} (h : bindings[i]? = some b) :
    ∃ before after, bindings = before ++ b :: after ∧
      (∀ b', bindings.set i b' = before ++ b' :: after) ∧
      bindings.eraseIdx i = before ++ after := by
  obtain ⟨hi, hb⟩ := List.getElem?_eq_some_iff.mp h
  refine ⟨bindings.take i, bindings.drop (i + 1), ?_, ?_, List.eraseIdx_eq_take_drop_succ _ _⟩
  · rw [← hb, List.getElem_cons_drop, List.take_append_drop]
  · intro b'
    rw [List.set_eq_take_append_cons_drop, if_pos hi]

/-- What every update of one binding keeps, under a condition on it, the loop over the
bindings keeps. -/
theorem updateLoop_keeps {I : List (RegBinding κ) → Notifiers κ → Prop}
    {C : Nat → RegBinding κ → Prop} {nWhat : BindingUpdate} {address : Nat → κ}
    (hstep : ∀ before b after s i, I (before ++ b :: after) s → C i b →
      I (before ++ (b.update s nWhat (address i)).1 :: after)
        (b.update s nWhat (address i)).2)
    (rest : List (RegBinding κ)) :
    ∀ before s i, (∀ (j : Nat) b, rest[j]? = some b → C (i + j) b) → I (before ++ rest) s →
      I (before ++ (updateLoop nWhat address i rest s).1)
        (updateLoop nWhat address i rest s).2 := by
  induction rest with
  | nil => exact fun before s i _ h => h
  | cons b rest ih =>
    intro before s i hC h
    have hb := hstep before b rest s i h (hC 0 b rfl)
    have hrest := ih (before ++ [(b.update s nWhat (address i)).1])
      (b.update s nWhat (address i)).2 (i + 1)
      (fun j c hc => by
        have hj := hC (j + 1) c hc
        rw [show i + (j + 1) = i + 1 + j by omega] at hj
        exact hj)
      (by rw [List.append_assoc]; exact hb)
    rw [List.append_assoc] at hrest
    exact hrest

/-- The notifiers that an event makes some binding ask for. -/
def Wanted (r : Registration κ) : RegistrationEvent κ → κ → Prop
  | .updateBindingState nWhat address, n =>
    ∃ (i : Nat) (b : RegBinding κ), r.bindings[i]? = some b ∧ b.Obtains nWhat ∧ address i = n
  | .updateContact i contact address, n =>
    ∃ b : RegBinding κ, r.bindings[i]? = some b ∧
      (contact = some true ∧ b.hasRegistration = true) ∧ address = n
  | _, _ => False

theorem updateContact_some {i : Nat} {b : RegBinding κ} (hi : r.bindings[i]? = some b)
    (contact : Option Bool) (address : κ) :
    r.updateContact i contact address =
      { bindings := r.bindings.set i (b.updateContact r.notifiers contact address).1
        notifiers := (b.updateContact r.notifiers contact address).2 } := by
  rw [Registration.updateContact, hi]

theorem destroyBinding_some {i : Nat} {b : RegBinding κ} (hi : r.bindings[i]? = some b) :
    r.destroyBinding i =
      { bindings := r.bindings.eraseIdx i
        notifiers := (b.destroySipConnectionNotifier r.notifiers).2 } := by
  rw [Registration.destroyBinding, hi]

/-- What the exchanges of notifiers keep, and the bindings without one and the other users
of a notifier do not touch, every event keeps. -/
theorem handle_keeps {I : List (RegBinding κ) → Notifiers κ → Prop} {Q : κ → Prop}
    (htied : ∀ bindings s, I bindings s → ∀ b ∈ bindings, b.IsTied)
    (hexchange : ∀ (before : List (RegBinding κ)) b after s address wanted b' s',
      I (before ++ b :: after) s → Exchange b s address wanted b' s' →
      (wanted → Q address) → b'.IsTied → I (before ++ b' :: after) s')
    (hnil : ∀ (before : List (RegBinding κ)) b after s, b.scn = none →
      (I (before ++ b :: after) s ↔ I (before ++ after) s))
    (houtside : ∀ bindings s outside n, I bindings s →
      I bindings (Notifiers.closeIfUnused { s with outside := outside } n))
    {e : RegistrationEvent κ} (hwanted : ∀ n, Wanted r e n → Q n)
    (h : I r.bindings r.notifiers) : I (r.handle e).bindings (r.handle e).notifiers := by
  cases e with
  | createBinding =>
    refine (hnil r.bindings _ [] r.notifiers rfl).mpr ?_
    rw [List.append_nil]
    exact h
  | updateBindingState nWhat address =>
    refine updateLoop_keeps (C := fun i b => r.bindings[i]? = some b) ?_ r.bindings []
      r.notifiers 0 ?_ h
    · intro before b after s i hI hi
      have hb : b.IsTied := htied _ _ hI b (List.mem_append_right _ List.mem_cons_self)
      refine hexchange before b after s (address i) _ _ _ hI (update_exchange hb nWhat) ?_
        (update_isTied hb nWhat)
      exact fun hobtains => hwanted (address i) ⟨i, b, hi, hobtains, rfl⟩
    · intro j b hj
      rw [Nat.zero_add]
      exact hj
  | updateContact i contact address =>
    change I (r.updateContact i contact address).bindings
      (r.updateContact i contact address).notifiers
    cases hi : r.bindings[i]? with
    | none =>
      rw [Registration.updateContact, hi]
      exact h
    | some b =>
      obtain ⟨before, after, heq, hset, -⟩ := exists_around hi
      rw [updateContact_some hi]
      rw [heq] at h
      have hb : b.IsTied := htied _ _ h b (List.mem_append_right _ List.mem_cons_self)
      have hresult := hexchange before b after r.notifiers address _ _ _ h
        (updateContact_exchange contact)
        (fun hw => hwanted address ⟨b, hi, hw, rfl⟩) (updateContact_isTied hb contact)
      rw [← hset] at hresult
      exact hresult
  | destroyBinding i =>
    change I (r.destroyBinding i).bindings (r.destroyBinding i).notifiers
    cases hi : r.bindings[i]? with
    | none =>
      rw [Registration.destroyBinding, hi]
      exact h
    | some b =>
      obtain ⟨before, after, heq, -, herase⟩ := exists_around hi
      rw [destroyBinding_some hi]
      rw [heq] at h
      have hb : b.IsTied := htied _ _ h b (List.mem_append_right _ List.mem_cons_self)
      cases hscn : b.scn with
      | none =>
        have hkeeps : b.destroySipConnectionNotifier r.notifiers = (b, r.notifiers) := by
          rw [destroySipConnectionNotifier, hscn]
        rw [hnil before b after _ hscn, ← herase] at h
        rw [hkeeps]
        exact h
      | some n =>
        have hresult := hexchange before b after r.notifiers n False _ _ h
          (destroy_exchange hb) False.elim (fun _ => destroy_scn)
        rw [hnil before _ after _ destroy_scn, ← herase] at hresult
        exact hresult
  | changeOutside n references => exact houtside r.bindings r.notifiers _ n h

theorem balanced_handle (h : Balanced r.bindings r.notifiers) (e : RegistrationEvent κ) :
    Balanced (r.handle e).bindings (r.handle e).notifiers :=
  handle_keeps (Q := fun _ => True) (fun _ _ hbalanced => hbalanced.tied)
    (fun _ _ _ _ _ _ _ _ hbalanced hexchange _ htied => hbalanced.exchange hexchange htied)
    (fun _ _ _ _ hb => balanced_append_nil hb) (fun _ _ _ _ hbalanced => hbalanced.closeIfUnused)
    (fun _ _ => trivial) h

theorem balanced_of_reachable (hr : (registrationSystem κ).Reachable r) :
    Balanced r.bindings r.notifiers := by
  refine System.Reachable.invariant (I := fun r => Balanced r.bindings r.notifiers) ?_ ?_ hr
  · rintro r ⟨hbindings, hcount, hobtained, hreleased, -⟩
    rw [hbindings]
    refine ⟨hcount, fun n => ?_, fun b hb => absurd hb List.not_mem_nil⟩
    rw [hobtained, hreleased]
    rfl
  · rintro r e r' h rfl
    exact balanced_handle h e

/-- The notifiers held and those that the event asks for are one notifier at most. -/
def OneNotifier (r : Registration κ) (e : RegistrationEvent κ) : Prop :=
  ∀ n m, (∃ b ∈ r.bindings, b.scn = some n) ∨ Wanted r e n →
    (∃ b ∈ r.bindings, b.scn = some m) ∨ Wanted r e m → n = m

/-- The registration listens to the notifiers that its bindings hold. -/
def ListensToHeld (r : Registration κ) : Prop :=
  ∀ n, r.notifiers.listening n = true ↔ ∃ b ∈ r.bindings, b.scn = some n

omit [DecidableEq κ] in
theorem exists_held_of_holders_pos (h : 0 < holders bindings) :
    ∃ b ∈ bindings, ∃ n, b.scn = some n := by
  obtain ⟨b, hb, hsome⟩ := List.countP_pos_iff.mp h
  exact ⟨b, hb, Option.isSome_iff_exists.mp hsome⟩

omit [DecidableEq κ] in
theorem holders_pos {b : RegBinding κ} {n : κ} (hb : b ∈ bindings) (hscn : b.scn = some n) :
    0 < holders bindings :=
  List.countP_pos_iff.mpr ⟨b, hb, by rw [hscn]; rfl⟩

theorem Heard.append_nil {P : κ → Prop} {before after : List (RegBinding κ)} {b : RegBinding κ}
    (hb : b.scn = none) : Heard P (before ++ b :: after) s ↔ Heard P (before ++ after) s := by
  constructor
  · intro h
    refine ⟨(balanced_append_nil hb).mp h.balanced, fun c hc n hscn => h.held c ?_ n hscn,
      h.listening⟩
    rcases List.mem_append.mp hc with hc | hc
    · exact List.mem_append_left _ hc
    · exact List.mem_append_right _ (List.mem_cons_of_mem b hc)
  · intro h
    refine ⟨(balanced_append_nil hb).mpr h.balanced, fun c hc n hscn => ?_, h.listening⟩
    rcases List.mem_append.mp hc with hc | hc
    · exact h.held c (List.mem_append_left _ hc) n hscn
    · rcases List.mem_cons.mp hc with rfl | hc
      · exact absurd (hscn.symm.trans hb) (Option.some_ne_none n)
      · exact h.held c (List.mem_append_right _ hc) n hscn

/-- A notifier is closed only when no binding holds it, and then nobody listens to it. -/
theorem Heard.closeIfUnused {P : κ → Prop} (h : Heard P bindings s)
    (hP : ∀ n m, P n → P m → n = m) {outside : κ → Nat} {n : κ} :
    Heard P bindings (Notifiers.closeIfUnused { s with outside := outside } n) := by
  refine ⟨h.balanced.closeIfUnused, h.held, fun m => ?_⟩
  rw [closeIfUnused_listening, closeIfUnused_refCount]
  refine ⟨fun hm => (h.listening m).mp hm.1, fun hm => ⟨(h.listening m).mpr hm, ?_⟩⟩
  rintro rfl
  have hheld : 0 < holdersOf m bindings := by
    rw [h.holdersOf_eq hP hm.1, ← h.balanced.count]
    exact hm.2
  have hobtained := h.balanced.obtained m
  change outside m + s.obtained m - s.released m ≠ 0
  omega

theorem listensToHeld_handle (hbalanced : Balanced r.bindings r.notifiers)
    (h : ListensToHeld r) {e : RegistrationEvent κ} (hone : OneNotifier r e) :
    ListensToHeld (r.handle e) := by
  have hheard : Heard (fun n => (∃ b ∈ r.bindings, b.scn = some n) ∨ Wanted r e n)
      r.bindings r.notifiers := by
    refine ⟨hbalanced, fun b hb n hscn => Or.inl ⟨b, hb, hscn⟩, fun n => ?_⟩
    rw [h n, hbalanced.count]
    constructor
    · rintro ⟨b, hb, hscn⟩
      exact ⟨Or.inl ⟨b, hb, hscn⟩, holders_pos hb hscn⟩
    · rintro ⟨hn, hpos⟩
      obtain ⟨b, hb, m, hscn⟩ := exists_held_of_holders_pos hpos
      exact ⟨b, hb, hone m n (Or.inl ⟨b, hb, hscn⟩) hn ▸ hscn⟩
  have hafter := handle_keeps (fun _ _ hI => hI.balanced.tied)
    (fun _ _ _ _ _ _ _ _ hI hexchange hwanted htied => hI.exchange hone hexchange hwanted htied)
    (fun _ _ _ _ hb => Heard.append_nil hb) (fun _ _ _ _ hI => hI.closeIfUnused hone)
    (fun _ hn => Or.inr hn) hheard
  intro n
  rw [hafter.listening n, hafter.balanced.count]
  constructor
  · rintro ⟨hn, hpos⟩
    obtain ⟨b, hb, m, hscn⟩ := exists_held_of_holders_pos hpos
    exact ⟨b, hb, hone m n (hafter.held b hb m hscn) hn ▸ hscn⟩
  · rintro ⟨b, hb, hscn⟩
    exact ⟨hafter.held b hb n hscn, holders_pos hb hscn⟩

theorem listensToHeld_of_reachable
    (hr : ((registrationSystem κ).restrict OneNotifier).Reachable r) : ListensToHeld r := by
  have hboth : Balanced r.bindings r.notifiers ∧ ListensToHeld r := by
    refine System.Reachable.restrict_invariant
      (I := fun r => Balanced r.bindings r.notifiers ∧ ListensToHeld r) ?_ ?_ hr
    · intro r hinit
      refine ⟨balanced_of_reachable (.init hinit), fun n => ?_⟩
      obtain ⟨hbindings, -, -, -, hlistening⟩ := hinit
      rw [hlistening n, hbindings]
      constructor
      · exact fun h => Bool.noConfusion h
      · rintro ⟨b, hb, -⟩
        exact absurd hb List.not_mem_nil
    · rintro r e r' ⟨hbalanced, hlistens⟩ hone rfl
      exact ⟨balanced_handle hbalanced e, listensToHeld_handle hbalanced hlistens hone⟩
  exact hboth.2

end Runs

end ImsStack.RegBindings
