import Mathlib.Data.List.Basic
import Mathlib.Data.List.Nodup

/-!
A table of chained buckets: every element is in the bucket of its key, and no key is there twice.
The rules read a table as the list of its elements, bucket by bucket; an element splits the table at
its place in its bucket.
-/

namespace ChainedBuckets

universe u v

variable {α : Type u} {κ : Type v} {key : α → κ} {slot : κ → Nat}

structure Placed (key : α → κ) (slot : κ → Nat) (t : List (List α)) : Prop where
  slot_of_mem : ∀ i b, t[i]? = some b → ∀ a ∈ b, slot (key a) = i
  nodup : (t.flatten.map key).Nodup

theorem placed_replicate (n : Nat) : Placed key slot (List.replicate n []) where
  slot_of_mem i b hb a ha := by
    obtain rfl := (List.mem_replicate.mp (List.mem_of_getElem? hb)).2
    cases ha
  nodup := by
    rw [List.flatten_replicate_nil]
    exact List.nodup_nil

theorem exists_split {t : List (List α)} {i : Nat} (hi : i < t.length) :
    ∃ before b after, t = before ++ b :: after ∧ before.length = i := by
  refine ⟨t.take i, t[i], t.drop (i + 1), ?_, List.length_take_of_le (Nat.le_of_lt hi)⟩
  rw [← List.drop_eq_getElem_cons hi, List.take_append_drop]

theorem modify_split (before : List (List α)) (b : List α) (after : List (List α))
    (f : List α → List α) :
    (before ++ b :: after).modify before.length f = before ++ f b :: after := by
  induction before with
  | nil => rfl
  | cons c before ih => exact congrArg (c :: ·) ih

theorem flatten_split (before : List (List α)) (b : List α) (after : List (List α)) :
    (before ++ b :: after).flatten = before.flatten ++ (b ++ after.flatten) := by
  rw [List.flatten_append, List.flatten_cons]

section
variable {before after : List (List α)} {b : List α}

theorem Placed.slot_bucket (h : Placed key slot (before ++ b :: after)) :
    ∀ a ∈ b, slot (key a) = before.length := by
  refine h.slot_of_mem before.length b ?_
  rw [List.getElem?_append_right (Nat.le_refl _), Nat.sub_self]
  rfl

theorem Placed.slot_before (h : Placed key slot (before ++ b :: after)) :
    ∀ a ∈ before.flatten, slot (key a) ≠ before.length := by
  intro a ha heq
  obtain ⟨c, hc, hac⟩ := List.mem_flatten.mp ha
  obtain ⟨i, hi, rfl⟩ := List.mem_iff_getElem.mp hc
  have hslot := h.slot_of_mem i before[i]
    (by rw [List.getElem?_append_left hi, List.getElem?_eq_getElem hi]) a hac
  omega

theorem Placed.slot_after (h : Placed key slot (before ++ b :: after)) :
    ∀ a ∈ after.flatten, slot (key a) ≠ before.length := by
  intro a ha heq
  obtain ⟨c, hc, hac⟩ := List.mem_flatten.mp ha
  obtain ⟨i, hi, rfl⟩ := List.mem_iff_getElem.mp hc
  have hslot := h.slot_of_mem (before.length + 1 + i) after[i]
    (by
      rw [List.getElem?_append_right (by omega),
        show before.length + 1 + i - before.length = i + 1 by omega, List.getElem?_cons_succ,
        List.getElem?_eq_getElem hi]) a hac
  omega

theorem Placed.replace (h : Placed key slot (before ++ b :: after)) {b' : List α}
    (hslot : ∀ a ∈ b', slot (key a) = before.length)
    (hnodup : ((before.flatten ++ (b' ++ after.flatten)).map key).Nodup) :
    Placed key slot (before ++ b' :: after) where
  slot_of_mem i c hc := by
    rcases Nat.lt_trichotomy i before.length with hlt | rfl | hgt
    · refine h.slot_of_mem i c ?_
      rw [List.getElem?_append_left hlt] at hc ⊢
      exact hc
    · rw [List.getElem?_append_right (Nat.le_refl _), Nat.sub_self] at hc
      obtain rfl := Option.some.inj hc
      exact hslot
    · refine h.slot_of_mem i c ?_
      rw [List.getElem?_append_right (Nat.le_of_lt hgt)] at hc ⊢
      rw [show i - before.length = i - before.length - 1 + 1 by omega,
        List.getElem?_cons_succ] at hc ⊢
      exact hc
  nodup := by
    rw [flatten_split]
    exact hnodup

theorem Placed.find?_bucket [DecidableEq κ] (h : Placed key slot (before ++ b :: after)) {k : κ}
    (hk : slot k = before.length) :
    b.find? (fun a => key a = k) = (before ++ b :: after).flatten.find? fun a => key a = k := by
  have hbefore : before.flatten.find? (fun a => key a = k) = none := by
    rw [List.find?_eq_none]
    intro a ha heq
    exact h.slot_before a ha (by rw [of_decide_eq_true heq, hk])
  have hafter : after.flatten.find? (fun a => key a = k) = none := by
    rw [List.find?_eq_none]
    intro a ha heq
    exact h.slot_after a ha (by rw [of_decide_eq_true heq, hk])
  rw [flatten_split, List.find?_append, List.find?_append, hbefore, hafter, Option.or_none,
    Option.none_or]

end

/-- An element of the table splits it at its place in the chain of its bucket. -/
theorem Placed.split_at {t : List (List α)} (h : Placed key slot t) {xs ys : List α} {e : α}
    (hentries : t.flatten = xs ++ e :: ys) :
    ∃ before pre post after, t = before ++ (pre ++ e :: post) :: after ∧
      before.length = slot (key e) ∧ xs = before.flatten ++ pre ∧ ys = post ++ after.flatten := by
  have he : e ∈ t.flatten := by
    rw [hentries]
    exact List.mem_append_right _ List.mem_cons_self
  obtain ⟨b, hb, heb⟩ := List.mem_flatten.mp he
  obtain ⟨i, hi, rfl⟩ := List.mem_iff_getElem.mp hb
  obtain ⟨before, b, after, rfl, rfl⟩ := exists_split hi
  have hbucket : (before ++ b :: after)[before.length] = b := by
    rw [List.getElem_append_right (Nat.le_refl _)]
    simp
  rw [hbucket] at heb
  obtain ⟨pre, post, rfl⟩ := List.append_of_mem heb
  have hplace : before.flatten ++ pre ++ e :: (post ++ after.flatten) = xs ++ e :: ys := by
    rw [← hentries, flatten_split, List.append_assoc, List.append_assoc, List.cons_append]
  have hnodup := List.Nodup.of_map key h.nodup
  rw [hentries] at hnodup
  have hnotxs : e ∉ xs := fun hx => (List.nodup_append.mp hnodup).2.2 e hx e List.mem_cons_self rfl
  have hnotys : e ∉ ys := (List.nodup_cons.mp (List.nodup_append.mp hnodup).2.1).1
  obtain ⟨hxs, -, hys⟩ := (List.append_cons_inj_of_notMem hnotxs hnotys).mp hplace.symm
  exact ⟨before, pre, post, after, rfl, (h.slot_bucket e heb).symm, hxs, hys⟩

end ChainedBuckets
