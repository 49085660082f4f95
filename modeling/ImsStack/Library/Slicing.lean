/-!
Readers of an input by a position: what a reader has read is a list of labelled slices, each of
which starts where the one in front of it ends.
-/

namespace ImsStack.Library.Slicing

universe u v w

/-- An input and the position up to which it has been read. -/
structure Cursor (α : Type u) where
  input : List α
  position : Nat
  deriving DecidableEq, Repr

namespace Cursor

variable {α : Type u}

def Valid (c : Cursor α) : Prop := c.position ≤ c.input.length

def rest (c : Cursor α) : List α := c.input.drop c.position

theorem length_rest (c : Cursor α) : c.rest.length = c.input.length - c.position :=
  List.length_drop

theorem rest_eq_nil_iff (c : Cursor α) : c.rest = [] ↔ c.input.length ≤ c.position :=
  List.drop_eq_nil_iff

theorem rest_eq_append {c : Cursor α} {n : Nat} :
    c.rest = (c.rest.take n) ++ { c with position := c.position + n }.rest := by
  unfold rest
  rw [← List.drop_drop, List.take_append_drop]

end Cursor

/-- A computation that may end in an exception, which is `none`. -/
abbrev Reader (α : Type u) := StateT (Cursor α) Option

theorem run_bind {α β γ : Type u} {m : Reader α β} {f : β → Reader α γ} {b : β} {c c' : Cursor α}
    (h : m c = some (b, c')) : (m >>= f) c = f b c' := by
  change (m c).bind (fun p => f p.1 p.2) = _
  rw [h]
  rfl

/-- A part of the input with what it has been read as. -/
structure Slice (ι : Type v) (α : Type u) where
  label : ι
  content : List α

variable {α : Type u} {ι : Type v} {β γ : Type u}

def contents (s : List (Slice ι α)) : List α := s.flatMap Slice.content

def labels (s : List (Slice ι α)) : List ι := s.map Slice.label

@[simp] theorem contents_nil : contents ([] : List (Slice ι α)) = [] := rfl

@[simp] theorem contents_singleton (label : ι) (content : List α) :
    contents [⟨label, content⟩] = content := by
  simp [contents]

@[simp] theorem contents_append (s t : List (Slice ι α)) :
    contents (s ++ t) = contents s ++ contents t :=
  List.flatMap_append

@[simp] theorem labels_nil : labels ([] : List (Slice ι α)) = [] := rfl

@[simp] theorem labels_singleton (label : ι) (content : List α) :
    labels [⟨label, content⟩] = [label] := rfl

@[simp] theorem labels_append (s t : List (Slice ι α)) :
    labels (s ++ t) = labels s ++ labels t :=
  List.map_append

/-- From every position in its input, the reader ends without an exception; it reads slices that
follow each other from the position on, and these, its result and what is left of the input are
related by `post`. -/
def Cuts (m : Reader α β) (post : β → List (Slice ι α) → List α → Prop) : Prop :=
  ∀ c : Cursor α, c.Valid → ∃ b c' s, m c = some (b, c') ∧ c'.input = c.input ∧ c'.Valid ∧
    c.rest = contents s ++ c'.rest ∧ post b s c'.rest

section Rules

variable {post : β → List (Slice ι α) → List α → Prop} {post' : γ → List (Slice ι α) → List α → Prop}

theorem Cuts.pure {b : β} (h : ∀ rest, post b [] rest) : Cuts (Pure.pure b : Reader α β) post :=
  fun c hc => ⟨b, c, [], rfl, rfl, hc, rfl, h _⟩

theorem Cuts.bind {m : Reader α β} {f : β → Reader α γ} (hm : Cuts m post)
    (hf : ∀ b s rest, post b s rest → Cuts (f b) fun b' s' => post' b' (s ++ s')) :
    Cuts (m >>= f) post' := by
  intro c hc
  obtain ⟨b, c₁, s, hrun, hinput, hvalid, hrest, hpost⟩ := hm c hc
  obtain ⟨b', c₂, s', hrun', hinput', hvalid', hrest', hpost'⟩ := hf b s _ hpost c₁ hvalid
  refine ⟨b', c₂, s ++ s', ?_, hinput'.trans hinput, hvalid', ?_, hpost'⟩
  · rw [run_bind hrun, hrun']
  · rw [hrest, hrest', contents_append, List.append_assoc]

theorem Cuts.map {m : Reader α β} {f : β → γ} (hm : Cuts m post)
    (h : ∀ b s rest, post b s rest → post' (f b) s rest) :
    Cuts (m >>= fun b => Pure.pure (f b)) post' := by
  intro c hc
  obtain ⟨b, c', s, hrun, hinput, hvalid, hrest, hpost⟩ := hm c hc
  refine ⟨f b, c', s, ?_, hinput, hvalid, hrest, h b s _ hpost⟩
  rw [run_bind hrun]
  rfl

theorem Cuts.mono {m : Reader α β} {weaker : β → List (Slice ι α) → List α → Prop}
    (hm : Cuts m post) (h : ∀ b s rest, post b s rest → weaker b s rest) : Cuts m weaker := by
  intro c hc
  obtain ⟨b, c', s, hrun, hinput, hvalid, hrest, hpost⟩ := hm c hc
  exact ⟨b, c', s, hrun, hinput, hvalid, hrest, h _ _ _ hpost⟩

theorem Cuts.ite {p : Prop} [Decidable p] {m m' : Reader α β} (hm : p → Cuts m post)
    (hm' : ¬ p → Cuts m' post) : Cuts (if p then m else m') post := by
  split
  · next h => exact hm h
  · next h => exact hm' h

theorem Cuts.start {m : Reader α β} (hm : Cuts m post) (input : List α) :
    ∃ b c s, m ⟨input, 0⟩ = some (b, c) ∧ c.input = input ∧ c.position ≤ input.length ∧
      contents s = input.take c.position ∧ post b s (input.drop c.position) := by
  obtain ⟨b, c, s, hrun, hinput, hvalid, hrest, hpost⟩ := hm ⟨input, 0⟩ (Nat.zero_le _)
  change c.input = input at hinput
  change c.position ≤ c.input.length at hvalid
  change input = contents s ++ c.input.drop c.position at hrest
  rw [hinput] at hvalid hrest
  refine ⟨b, c, s, hrun, hinput, hvalid, ?_, ?_⟩
  · have hsplit : contents s ++ input.drop c.position =
        input.take c.position ++ input.drop c.position := by
      rw [← hrest, List.take_append_drop]
    exact List.append_cancel_right hsplit
  · unfold Cursor.rest at hpost
    rw [hinput] at hpost
    exact hpost

end Rules

/-! ### Readers that depend on what is left of the input -/

/-- Two readers that are at the same rest of their inputs end at the same rest, with related
results. -/
def Agree (R : β → γ → Prop) (m : Reader α β) (m' : Reader α γ) : Prop :=
  ∀ c c' : Cursor α, c.Valid → c'.Valid → c.rest = c'.rest → ∃ b b' d d',
    m c = some (b, d) ∧ m' c' = some (b', d') ∧ d.Valid ∧ d'.Valid ∧ d.rest = d'.rest ∧ R b b'

section Agreement

variable {β' γ' : Type u} {R : β → β' → Prop} {R' : γ → γ' → Prop}

theorem Agree.pure {b : β} {b' : β'} (h : R b b') :
    Agree R (Pure.pure b : Reader α β) (Pure.pure b') :=
  fun c c' hc hc' hrest => ⟨b, b', c, c', rfl, rfl, hc, hc', hrest, h⟩

theorem Agree.bind {m : Reader α β} {m' : Reader α β'} {f : β → Reader α γ}
    {f' : β' → Reader α γ'} (hm : Agree R m m') (hf : ∀ b b', R b b' → Agree R' (f b) (f' b')) :
    Agree R' (m >>= f) (m' >>= f') := by
  intro c c' hc hc' hrest
  obtain ⟨b, b', d, d', hrun, hrun', hd, hd', hrest', hR⟩ := hm c c' hc hc' hrest
  obtain ⟨a, a', e, e', hnext, hnext', he, he', hrest'', hR'⟩ := hf b b' hR d d' hd hd' hrest'
  refine ⟨a, a', e, e', ?_, ?_, he, he', hrest'', hR'⟩
  · rw [run_bind hrun, hnext]
  · rw [run_bind hrun', hnext']

theorem Agree.ite {p : Prop} [Decidable p] {m n : Reader α β} {m' n' : Reader α β'}
    (hm : p → Agree R m m') (hn : ¬ p → Agree R n n') :
    Agree R (if p then m else n) (if p then m' else n') := by
  split
  · next h => exact hm h
  · next h => exact hn h

end Agreement

end ImsStack.Library.Slicing
