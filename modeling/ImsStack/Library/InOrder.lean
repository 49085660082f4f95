import Mathlib.Data.List.Range

/-!
Delivery of numbered messages in order: a receiver that remembers the number it
delivered last.
-/

namespace InOrder

/-- What a receiver says of a numbered message. -/
inductive Verdict where
  /-- The message is new and next in order. -/
  | delivered
  /-- It repeats the message delivered last. -/
  | repeated
  | refused
  deriving DecidableEq, Repr

/-- The verdict after the message with some number has been delivered last. -/
def verdict (last : Option Nat) (number : Nat) : Verdict :=
  match last with
  | none => .delivered
  | some last =>
    if number = last then .repeated else if number = last + 1 then .delivered else .refused

/-- The number that is remembered after a message. -/
def remember (last : Option Nat) (number : Nat) : Option Nat :=
  if verdict last number = .delivered then some number else last

def judge : Option Nat → List Nat → List Verdict
  | _, [] => []
  | last, number :: numbers =>
    verdict last number :: judge (remember last number) numbers

/-- The numbers of the messages that are delivered. -/
def delivered : Option Nat → List Nat → List Nat
  | _, [] => []
  | last, number :: numbers =>
    if verdict last number = .delivered then
      number :: delivered (some number) numbers
    else delivered last numbers

theorem verdict_eq_delivered_iff (last number : Nat) :
    verdict (some last) number = .delivered ↔ number = last + 1 := by
  simp only [verdict]
  split
  · rename_i heq
    simp [heq]
  · split
    · rename_i heq
      simp [heq]
    · rename_i hne
      simp [hne]

theorem delivered_some (last : Nat) (numbers : List Nat) :
    ∃ k, delivered (some last) numbers = List.range' (last + 1) k := by
  induction numbers generalizing last with
  | nil => exact ⟨0, rfl⟩
  | cons number numbers ih =>
      simp only [delivered]
      split
      · rename_i hverdict
        obtain rfl := (verdict_eq_delivered_iff last number).mp hverdict
        obtain ⟨k, hk⟩ := ih (last + 1)
        exact ⟨k + 1, by rw [hk, List.range'_succ]⟩
      · exact ih last

theorem delivered_consecutive (numbers : List Nat) :
    ∃ n k, delivered none numbers = List.range' n k := by
  cases numbers with
  | nil => exact ⟨0, 0, rfl⟩
  | cons number numbers =>
      obtain ⟨k, hk⟩ := delivered_some number numbers
      refine ⟨number, k + 1, ?_⟩
      rw [List.range'_succ, ← hk]
      rfl

theorem delivered_eq_filter (last : Option Nat) (numbers : List Nat) :
    delivered last numbers =
      ((numbers.zip (judge last numbers)).filter (·.2 = .delivered)).map Prod.fst := by
  induction numbers generalizing last with
  | nil => rfl
  | cons number numbers ih =>
      simp only [delivered, judge, List.zip_cons_cons, List.filter_cons]
      split
      · rename_i hverdict
        simp only [remember, hverdict, decide_true, ↓reduceIte, List.map_cons, ih]
      · rename_i hverdict
        simp only [remember, hverdict, decide_false, Bool.false_eq_true, ↓reduceIte, ih]

end InOrder
