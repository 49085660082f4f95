import Mathlib.Data.List.Basic
import Mathlib.Order.Lattice

/-!
A list that is kept in buckets, sorted by a hash of the elements: every bucket has the elements
of its hash in the order of the list, and none is empty.  One rule covers every change to the
list that leaves the elements of the other hashes alone.
-/

namespace HashBuckets

universe u v

variable {α : Type u} {κ : Type v}

/-- What is stored for a hash: a bucket, or nothing where that would be empty. -/
def bucketAt (k : κ) : List α → List (κ × List α)
  | [] => []
  | a :: rest => [(k, a :: rest)]

theorem mem_bucketAt {k k' : κ} {b b' : List α} :
    (k', b') ∈ bucketAt k b ↔ k' = k ∧ b' = b ∧ b ≠ [] := by
  cases b with
  | nil => simp [bucketAt]
  | cons a rest => simp [bucketAt]

variable [LinearOrder κ] {hash : α → κ}

/-- The elements of the list with the hash `k`. -/
def withHash (hash : α → κ) (k : κ) (l : List α) : List α :=
  l.filter fun a => hash a = k

structure Represents (hash : α → κ) (m : List (κ × List α)) (l : List α) : Prop where
  sorted : m.Pairwise fun p q => p.1 < q.1
  mem_iff : ∀ k b, (k, b) ∈ m ↔ b = withHash hash k l ∧ b ≠ []

theorem Represents.nil : Represents hash [] ([] : List α) where
  sorted := List.Pairwise.nil
  mem_iff k b := by
    simp [withHash]

variable {m : List (κ × List α)} {l : List α}

theorem Represents.ne_nil (h : Represents hash m l) {p : κ × List α} (hp : p ∈ m) : p.2 ≠ [] :=
  ((h.mem_iff p.1 p.2).mp hp).2

theorem exists_split {ν : Type u} {m : List (κ × ν)} (h : m.Pairwise fun p q => p.1 < q.1)
    (k : κ) :
    ∃ before at_ after, m = before ++ (at_ ++ after) ∧ (∀ p ∈ before, p.1 < k) ∧
      (∀ p ∈ at_, p.1 = k) ∧ (∀ p ∈ after, k < p.1) ∧ at_.length ≤ 1 := by
  induction m with
  | nil => exact ⟨[], [], [], rfl, by simp, by simp, by simp, by simp⟩
  | cons p rest ih =>
      obtain ⟨hfirst, hrest⟩ := List.pairwise_cons.mp h
      rcases lt_trichotomy p.1 k with hlt | heq | hgt
      · obtain ⟨before, at_, after, rfl, hbefore, hat, hafter, hlen⟩ := ih hrest
        refine ⟨p :: before, at_, after, rfl, ?_, hat, hafter, hlen⟩
        intro q hq
        rcases List.mem_cons.mp hq with rfl | hq
        · exact hlt
        · exact hbefore q hq
      · refine ⟨[], [p], rest, rfl, by simp, by simp [heq], ?_, by simp⟩
        intro q hq
        rw [← heq]
        exact hfirst q hq
      · refine ⟨[], [], p :: rest, rfl, by simp, by simp, ?_, by simp⟩
        intro q hq
        rcases List.mem_cons.mp hq with rfl | hq
        · exact hgt
        · exact lt_trans hgt (hfirst q hq)

theorem Represents.split (h : Represents hash m l) (k : κ) :
    ∃ before after, m = before ++ (bucketAt k (withHash hash k l) ++ after) ∧
      (∀ p ∈ before, p.1 < k) ∧ ∀ p ∈ after, k < p.1 := by
  obtain ⟨before, at_, after, rfl, hbefore, hat, hafter, hlen⟩ := exists_split h.sorted k
  refine ⟨before, after, ?_, hbefore, hafter⟩
  congr 2
  rcases at_ with _ | ⟨p, _ | ⟨q, rest⟩⟩
  · cases hb : withHash hash k l with
    | nil => rfl
    | cons a rest =>
        have hmem := (h.mem_iff k (a :: rest)).mpr ⟨hb.symm, List.cons_ne_nil a rest⟩
        rw [List.nil_append, List.mem_append] at hmem
        rcases hmem with hmem | hmem
        · exact absurd (hbefore _ hmem) (lt_irrefl k)
        · exact absurd (hafter _ hmem) (lt_irrefl k)
  · obtain rfl : p.1 = k := hat p List.mem_cons_self
    obtain ⟨hb, hne⟩ := (h.mem_iff p.1 p.2).mp (by simp)
    rw [← hb]
    cases hp : p.2 with
    | nil => exact absurd hp hne
    | cons a rest =>
        simp only [bucketAt]
        rw [← hp]
  · simp at hlen

/-- A change of the list that concerns one hash only is a change of that hash's bucket. -/
theorem Represents.replace {before after : List (κ × List α)} {k : κ} {b : List α}
    (h : Represents hash (before ++ (bucketAt k b ++ after)) l) (l' : List α)
    (hbefore : ∀ p ∈ before, p.1 < k) (hafter : ∀ p ∈ after, k < p.1)
    (hother : ∀ k', k' ≠ k → withHash hash k' l' = withHash hash k' l) :
    Represents hash (before ++ (bucketAt k (withHash hash k l') ++ after)) l' where
  sorted := by
    obtain ⟨hb, hrest, hcross⟩ := List.pairwise_append.mp h.sorted
    obtain ⟨-, ha, -⟩ := List.pairwise_append.mp hrest
    have hat : ∀ p ∈ bucketAt k (withHash hash k l'), p.1 = k := by
      intro p hp
      exact (mem_bucketAt.mp hp).1
    rw [List.pairwise_append, List.pairwise_append]
    refine ⟨hb, ⟨?_, ha, ?_⟩, ?_⟩
    · cases withHash hash k l' with
      | nil => exact List.Pairwise.nil
      | cons a rest => exact List.pairwise_singleton _ _
    · intro p hp q hq
      rw [hat p hp]
      exact hafter q hq
    · intro p hp q hq
      rcases List.mem_append.mp hq with hq | hq
      · rw [hat q hq]
        exact hbefore p hp
      · exact lt_trans (hbefore p hp) (hafter q hq)
  mem_iff k' b' := by
    rcases eq_or_ne k' k with rfl | hne
    · rw [List.mem_append, List.mem_append, mem_bucketAt]
      constructor
      · rintro (hmem | ⟨-, rfl, hb⟩ | hmem)
        · exact absurd (hbefore _ hmem) (lt_irrefl k')
        · exact ⟨rfl, hb⟩
        · exact absurd (hafter _ hmem) (lt_irrefl k')
      · rintro ⟨rfl, hb⟩
        exact .inr (.inl ⟨rfl, rfl, hb⟩)
    · rw [hother k' hne, ← h.mem_iff]
      simp only [List.mem_append, mem_bucketAt, hne, false_and, false_or]

theorem Represents.map (h : Represents hash m l) {f : α → α} (hf : ∀ a, hash (f a) = hash a) :
    Represents hash (m.map fun p => (p.1, p.2.map f)) (l.map f) where
  sorted := by
    rw [List.pairwise_map]
    exact h.sorted
  mem_iff k b := by
    have hwith : withHash hash k (l.map f) = (withHash hash k l).map f := by
      unfold withHash
      rw [List.filter_map]
      congr 1
      apply List.filter_congr
      intro a _
      simp only [Function.comp_apply, hf]
    rw [hwith, List.mem_map]
    constructor
    · rintro ⟨p, hp, heq⟩
      obtain ⟨hb, hne⟩ := (h.mem_iff p.1 p.2).mp hp
      obtain ⟨rfl, rfl⟩ := Prod.mk.inj heq
      rw [← hb]
      exact ⟨rfl, by simpa using hne⟩
    · rintro ⟨rfl, hne⟩
      exact ⟨(k, withHash hash k l), (h.mem_iff _ _).mpr ⟨rfl, by simpa using hne⟩, rfl⟩

theorem withHash_append (k : κ) (l l' : List α) :
    withHash hash k (l ++ l') = withHash hash k l ++ withHash hash k l' :=
  List.filter_append ..

theorem withHash_singleton (a : α) : withHash hash (hash a) [a] = [a] := by
  simp [withHash]

theorem withHash_singleton_ne {k : κ} {a : α} (h : k ≠ hash a) : withHash hash k [a] = [] := by
  simp [withHash, Ne.symm h]

section search

variable {p : α → Bool} {k : κ}

/-- Where only elements of one hash match, the first match is in the bucket of that hash. -/
theorem find?_withHash (hp : ∀ a, p a = true → hash a = k) (l : List α) :
    (withHash hash k l).find? p = l.find? p := by
  unfold withHash
  rw [List.find?_filter]
  congr 1
  funext a
  cases ha : p a with
  | false => simp
  | true => simp [hp a ha]

theorem withHash_eraseP (hp : ∀ a, p a = true → hash a = k) (l : List α) :
    withHash hash k (l.eraseP p) = (withHash hash k l).eraseP p := by
  induction l with
  | nil => rfl
  | cons a rest ih =>
      cases ha : p a with
      | true =>
          rw [List.eraseP_cons_of_pos ha]
          unfold withHash
          rw [List.filter_cons_of_pos (by simpa using hp a ha), List.eraseP_cons_of_pos ha]
      | false =>
          have hneg : ¬p a = true := by simp [ha]
          rw [List.eraseP_cons_of_neg hneg]
          unfold withHash at ih ⊢
          rw [List.filter_cons, List.filter_cons, ih]
          split
          · rw [List.eraseP_cons_of_neg hneg]
          · rfl

theorem withHash_eraseP_ne (hp : ∀ a, p a = true → hash a = k) {k' : κ} (hne : k' ≠ k)
    (l : List α) : withHash hash k' (l.eraseP p) = withHash hash k' l := by
  induction l with
  | nil => rfl
  | cons a rest ih =>
      cases ha : p a with
      | true =>
          have hother : ¬hash a = k' := by
            rw [hp a ha]
            exact Ne.symm hne
          rw [List.eraseP_cons_of_pos ha]
          unfold withHash
          rw [List.filter_cons_of_neg (by simpa using hother)]
      | false =>
          rw [List.eraseP_cons_of_neg (by simp [ha])]
          unfold withHash at ih ⊢
          rw [List.filter_cons, List.filter_cons, ih]

end search

end HashBuckets
