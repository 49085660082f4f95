import Mathlib.Logic.Basic

/-!
Labelled transition systems, their reachable states and the induction rule for
invariants.  A system is a predicate of initial states and a step relation; the
steps may be restricted to those that meet a side condition on the state they
start from.
-/

namespace TransitionSystem

universe u v

/-- A labelled transition system over states `σ` and events `ε`. -/
structure System (σ : Type u) (ε : Type v) where
  Init : σ → Prop
  Step : σ → ε → σ → Prop

variable {σ : Type u} {ε : Type v}

namespace System

/-- The states some run from an initial state ends in. -/
inductive Reachable (S : System σ ε) : σ → Prop where
  | init {s : σ} : S.Init s → Reachable S s
  | step {s s' : σ} (e : ε) : Reachable S s → S.Step s e s' → Reachable S s'

/-- The same system with only the steps that meet a condition on the state
before the step and on the event. -/
def restrict (S : System σ ε) (allowed : σ → ε → Prop) : System σ ε where
  Init := S.Init
  Step s e s' := allowed s e ∧ S.Step s e s'

/-- The same system, started in a given state. -/
def startingAt (S : System σ ε) (s : σ) : System σ ε where
  Init s' := s' = s
  Step := S.Step

/-- What holds initially and is kept by every step holds of every reachable
state. -/
theorem Reachable.invariant {S : System σ ε} {I : σ → Prop}
    (hinit : ∀ s, S.Init s → I s)
    (hstep : ∀ s e s', I s → S.Step s e s' → I s')
    {s : σ} (hs : S.Reachable s) : I s := by
  induction hs with
  | init h => exact hinit _ h
  | step e _ h ih => exact hstep _ e _ ih h

/-- What holds initially and is kept by the steps that meet the side condition holds
of every state of the restricted system. -/
theorem Reachable.restrict_invariant {S : System σ ε} {allowed : σ → ε → Prop} {I : σ → Prop}
    (hinit : ∀ s, S.Init s → I s)
    (hstep : ∀ s e s', I s → allowed s e → S.Step s e s' → I s')
    {s : σ} (hs : (S.restrict allowed).Reachable s) : I s := by
  induction hs with
  | init h => exact hinit _ h
  | step e _ h ih => exact hstep _ e _ ih h.1 h.2

theorem Reachable.of_startingAt {S : System σ ε} {s s' : σ} (hs : S.Reachable s)
    (hs' : (S.startingAt s).Reachable s') : S.Reachable s' := by
  induction hs' with
  | init h =>
      subst h
      exact hs
  | step e _ h ih => exact .step e ih h

theorem Reachable.of_restrict {S : System σ ε} {allowed : σ → ε → Prop} {s : σ}
    (hs : (S.restrict allowed).Reachable s) : S.Reachable s := by
  induction hs with
  | init h => exact .init h
  | step e _ h ih => exact .step e ih h.2

/-- A system whose steps another one follows, or lets pass without a step of its own, is
at every moment related to a reachable state of the other. -/
theorem Reachable.simulated {τ : Type u} {δ : Type v} {S : System σ ε} {A : System τ δ}
    {R : σ → τ → Prop} (hinit : ∀ s, S.Init s → ∃ a, A.Init a ∧ R s a)
    (hstep : ∀ s e s' a, R s a → A.Reachable a → S.Step s e s' →
      R s' a ∨ ∃ d a', A.Step a d a' ∧ R s' a')
    {s : σ} (hs : S.Reachable s) : ∃ a, A.Reachable a ∧ R s a := by
  induction hs with
  | init h =>
      obtain ⟨a, ha, hR⟩ := hinit _ h
      exact ⟨a, .init ha, hR⟩
  | step e _ h ih =>
      obtain ⟨a, ha, hR⟩ := ih
      rcases hstep _ e _ a hR ha h with hR' | ⟨d, a', hd, hR'⟩
      · exact ⟨a, ha, hR'⟩
      · exact ⟨a', .step d ha hd, hR'⟩

end System

end TransitionSystem
