/-!
Programs over a state that may leave early through a failure exit, and pairs of them that differ
in what they do at their failure exits only.
-/

namespace ImsStack.Library.FailureExits

universe u v

variable {ε σ α β : Type u}

/-- A program over a state; an exit keeps the state it was taken in. -/
abbrev Exits (ε σ α : Type u) := EStateM ε σ α

/-- The result of a run with the state of a failure exit put through `cleanup`. -/
def cleaned (cleanup : σ → σ) : EStateM.Result ε σ α → EStateM.Result ε σ α
  | .ok a s => .ok a s
  | .error e s => .error e (cleanup s)

/-- The second program runs as the first, and at each failure exit it puts the state through
`cleanup` in addition. -/
def CleansUp (cleanup : σ → σ) (p q : Exits ε σ α) : Prop := ∀ s, q s = cleaned cleanup (p s)

variable {cleanup : σ → σ}

theorem CleansUp.refl {p : Exits ε σ α} (h : ∀ s, ∃ a s', p s = .ok a s') :
    CleansUp cleanup p p := by
  intro s
  obtain ⟨a, s', hrun⟩ := h s
  rw [hrun]
  rfl

theorem CleansUp.pure (a : α) : CleansUp cleanup (pure a : Exits ε σ α) (pure a) :=
  .refl fun s => ⟨a, s, rfl⟩

theorem CleansUp.exit (e : ε) :
    CleansUp cleanup (throw e : Exits ε σ α) (do modify cleanup; throw e) := by
  intro s
  rfl

theorem CleansUp.bind {p q : Exits ε σ α} {f g : α → Exits ε σ β} (h : CleansUp cleanup p q)
    (hrest : ∀ a, CleansUp cleanup (f a) (g a)) : CleansUp cleanup (p >>= f) (q >>= g) := by
  intro s
  change EStateM.bind q g s = _
  unfold EStateM.bind
  rw [h s]
  change _ = cleaned cleanup (EStateM.bind p f s)
  unfold EStateM.bind
  cases p s with
  | ok a s' => exact hrest a s'
  | error e s' => rfl

theorem CleansUp.ite {c : Prop} [Decidable c] {p q p' q' : Exits ε σ α}
    (h : CleansUp cleanup p q) (h' : CleansUp cleanup p' q') :
    CleansUp cleanup (if c then p else p') (if c then q else q') := by
  split
  · exact h
  · exact h'

/-- The result of a run with its last state put through `cleanup`, whichever way it ended. -/
def undone (cleanup : σ → σ) : EStateM.Result ε σ α → EStateM.Result ε σ α
  | .ok a s => .ok a (cleanup s)
  | .error e s => .error e (cleanup s)

/-- The second program runs as the first, and it puts the state through `cleanup` at every end. -/
def Undoes (cleanup : σ → σ) (p q : Exits ε σ α) : Prop := ∀ s, q s = undone cleanup (p s)

theorem Undoes.exit (e : ε) :
    Undoes cleanup (throw e : Exits ε σ α) (do modify cleanup; throw e) := by
  intro s
  rfl

theorem Undoes.bind {p q : Exits ε σ α} {f g : α → Exits ε σ β} (h : CleansUp cleanup p q)
    (hrest : ∀ a, Undoes cleanup (f a) (g a)) : Undoes cleanup (p >>= f) (q >>= g) := by
  intro s
  change EStateM.bind q g s = _
  unfold EStateM.bind
  rw [h s]
  change _ = undone cleanup (EStateM.bind p f s)
  unfold EStateM.bind
  cases p s with
  | ok a s' => exact hrest a s'
  | error e s' => rfl

theorem CleansUp.undoes {p q : Exits ε σ PUnit} (h : CleansUp cleanup p q) :
    Undoes cleanup p (do q; modify cleanup) := by
  intro s
  change EStateM.bind q (fun _ => modify cleanup) s = _
  unfold EStateM.bind
  rw [h s]
  cases p s with
  | ok a s' => rfl
  | error e s' => rfl

/-- What a run from `s` ends in: `ok` holds of its result and its state, or `failed` of the state of
an exit. -/
def Ends (p : Exits ε σ α) (s : σ) (ok : α → σ → Prop) (failed : σ → Prop) : Prop :=
  match p s with
  | .ok a s' => ok a s'
  | .error _ s' => failed s'

section Ends

variable {p : Exits ε σ α} {s : σ} {ok : α → σ → Prop} {failed : σ → Prop}

theorem Ends.bind {f : α → Exits ε σ β} {ok' : β → σ → Prop} (h : Ends p s ok failed)
    (hrest : ∀ a s', ok a s' → Ends (f a) s' ok' failed) : Ends (p >>= f) s ok' failed := by
  change Ends (EStateM.bind p f) s ok' failed
  unfold Ends EStateM.bind
  unfold Ends at h
  cases hp : p s with
  | ok a s' =>
    rw [hp] at h
    exact hrest a s' h
  | error e s' =>
    rw [hp] at h
    exact h

theorem Ends.ite {c : Prop} [Decidable c] {q : Exits ε σ α} (h : c → Ends p s ok failed)
    (h' : ¬c → Ends q s ok failed) : Ends (if c then p else q) s ok failed := by
  split
  · exact h ‹_›
  · exact h' ‹_›

theorem Ends.weaken (h : Ends p s ok failed) : Ends p s ok (fun _ => True) := by
  unfold Ends at h ⊢
  cases hp : p s with
  | ok a s' =>
    rw [hp] at h
    exact h
  | error e s' => exact trivial

end Ends

/-- Whichever way a run ends, what held at its start holds at its end. -/
def Keeps (P : σ → Prop) (p : Exits ε σ α) : Prop := ∀ s, P s → Ends p s (fun _ => P) P

section Keeps

variable {P : σ → Prop} {p : Exits ε σ α}

theorem Keeps.pure (a : α) : Keeps P (pure a : Exits ε σ α) := fun _ h => h

theorem Keeps.exit (e : ε) : Keeps P (throw e : Exits ε σ α) := fun _ h => h

theorem Keeps.bind {f : α → Exits ε σ β} (h : Keeps P p) (hrest : ∀ a, Keeps P (f a)) :
    Keeps P (p >>= f) :=
  fun s hs => (h s hs).bind fun a s' hs' => hrest a s' hs'

theorem Keeps.ite {c : Prop} [Decidable c] {q : Exits ε σ α} (h : Keeps P p) (h' : Keeps P q) :
    Keeps P (if c then p else q) :=
  fun s hs => .ite (fun _ => h s hs) fun _ => h' s hs

end Keeps

end ImsStack.Library.FailureExits
