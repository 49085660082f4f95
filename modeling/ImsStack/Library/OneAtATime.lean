import ImsStack.Library.TransitionSystem
import Mathlib.Data.List.Infix
import Mathlib.Data.List.Count
import Mathlib.Data.List.Nodup

/-!
A sender that takes any number of messages and has one of them under way at a time: the
first in its queue, until it is reported.
-/

namespace OneAtATime

open TransitionSystem

/-- What the first message in the queue waits for. -/
inductive Phase where
  /-- The queue is empty. -/
  | idle
  /-- It is under way. -/
  | sending
  /-- It has to be sent. -/
  | due
  deriving DecidableEq, Repr

/-- A sender with what it has done, the last at the end. -/
structure Sender (α : Type) where
  queue : List α
  phase : Phase
  accepted : List α
  handed : List α
  reported : List α

inductive Event (α : Type) where
  | accept (a : α)
  | dispatch
  | complete

variable {α : Type}

def Sender.new : Sender α := ⟨[], .idle, [], [], []⟩

inductive Step : Sender α → Event α → Sender α → Prop where
  | acceptIdle {s : Sender α} {a : α} : s.phase = .idle →
      Step s (.accept a)
        { s with
          queue := [a]
          phase := .sending
          accepted := s.accepted ++ [a]
          handed := s.handed ++ [a] }
  | acceptBusy {s : Sender α} {a : α} : s.phase ≠ .idle → a ∉ s.queue →
      Step s (.accept a) { s with queue := s.queue ++ [a], accepted := s.accepted ++ [a] }
  | dispatch {s : Sender α} {a : α} {rest : List α} : s.phase = .due → s.queue = a :: rest →
      Step s .dispatch { s with phase := .sending, handed := s.handed ++ [a] }
  | complete {s : Sender α} {a : α} {rest : List α} :
      s.phase = .sending → s.queue = a :: rest →
      Step s .complete
        { s with
          queue := rest
          phase := if rest.isEmpty then .idle else .due
          reported := s.reported ++ [a] }

def senders (α : Type) : System (Sender α) (Event α) where
  Init s := s = .new
  Step := Step

/-- The messages that have been accepted are those reported and those in the queue, and
those handed over are those reported and the one under way. -/
structure Good (s : Sender α) : Prop where
  idle_iff : s.phase = .idle ↔ s.queue = []
  accepted : s.accepted = s.reported ++ s.queue
  handed : s.handed = s.reported ++ if s.phase = .sending then s.queue.take 1 else []
  nodup : s.queue.Nodup

theorem Good.step {s s' : Sender α} {e : Event α} (hs : Good s) (hstep : Step s e s') :
    Good s' := by
  cases hstep with
  | acceptIdle hidle =>
      have hempty := hs.idle_iff.mp hidle
      refine ⟨by simp, ?_, ?_, List.nodup_singleton _⟩
      · simp [hs.accepted, hempty]
      · simp [hs.handed, hidle]
  | @acceptBusy a hbusy hnew =>
      have hqueue : s.queue ≠ [] := fun hempty => hbusy (hs.idle_iff.mpr hempty)
      refine ⟨by simp [hbusy], ?_, ?_, ?_⟩
      · simp [hs.accepted]
      · have htake : (s.queue ++ [a]).take 1 = s.queue.take 1 := by
          cases hcons : s.queue with
          | nil => exact absurd hcons hqueue
          | cons b rest => rfl
        simp only [hs.handed, htake]
      · rw [List.nodup_append]
        refine ⟨hs.nodup, List.nodup_singleton _, ?_⟩
        intro b hb c hc hbc
        obtain rfl := List.mem_singleton.mp hc
        exact hnew (hbc ▸ hb)
  | dispatch hdue hqueue =>
      refine ⟨by simp [hqueue], hs.accepted, ?_, hs.nodup⟩
      simp [hs.handed, hdue, hqueue]
  | @complete a rest hsending hqueue =>
      have hnodup := hs.nodup
      rw [hqueue] at hnodup
      refine ⟨?_, ?_, ?_, (List.nodup_cons.mp hnodup).2⟩
      · cases rest <;> simp
      · simp [hs.accepted, hqueue]
      · cases rest <;> simp [hs.handed, hsending, hqueue]

theorem good_of_reachable {s : Sender α} (hs : (senders α).Reachable s) : Good s := by
  refine hs.invariant ?_ (fun _ _ _ hgood hstep => hgood.step hstep)
  rintro _ rfl
  exact ⟨by simp [Sender.new], rfl, rfl, List.nodup_nil⟩

namespace Good

theorem handed_prefix {s : Sender α} (hs : Good s) : s.handed <+: s.accepted := by
  rw [hs.handed, hs.accepted]
  apply (List.prefix_append_right_inj _).mpr
  split
  · exact List.take_prefix _ _
  · exact List.nil_prefix

theorem count_reported_le [DecidableEq α] {s : Sender α} (hs : Good s) (a : α) :
    s.reported.count a ≤ s.accepted.count a := by
  rw [hs.accepted, List.count_append]
  exact Nat.le_add_right _ _

end Good

end OneAtATime
