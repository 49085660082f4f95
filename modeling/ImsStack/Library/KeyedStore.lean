import Mathlib.Data.List.Nodup
import Mathlib.Logic.Function.Basic

/-!
Lists of records that are kept by a key, against the partial map of keys that they stand for:
at most one record for each key, and the rules for taking a record out, for appending one and
for changing the one in place.
-/

namespace KeyedStore

universe u v

variable {α : Type u} {κ : Type v} {key : α → κ}

/-- The list has one record for each key of the map, and no others. -/
structure Represents (key : α → κ) (l : List α) (m : κ → Option α) : Prop where
  nodup : (l.map key).Nodup
  mem_iff : ∀ k a, m k = some a ↔ a ∈ l ∧ key a = k

theorem Represents.nil : Represents key [] fun _ => none where
  nodup := List.nodup_nil
  mem_iff k a := by
    constructor
    · intro h
      cases h
    · rintro ⟨h, -⟩
      cases h

variable {l : List α} {m : κ → Option α}

theorem Represents.eq_some (h : Represents key l m) {a : α} (ha : a ∈ l) :
    m (key a) = some a :=
  (h.mem_iff (key a) a).mpr ⟨ha, rfl⟩

theorem Represents.key_eq (h : Represents key l m) {k : κ} {a : α} (ha : m k = some a) :
    key a = k :=
  ((h.mem_iff k a).mp ha).2

theorem Represents.eq_none_iff (h : Represents key l m) {k : κ} :
    m k = none ↔ ∀ a ∈ l, key a ≠ k := by
  constructor
  · intro hnone a ha hkey
    rw [← hkey, h.eq_some ha] at hnone
    cases hnone
  · intro hall
    cases hk : m k with
    | none => rfl
    | some a =>
        obtain ⟨ha, hkey⟩ := (h.mem_iff k a).mp hk
        exact absurd hkey (hall a ha)

theorem Represents.unique {m' : κ → Option α} (h : Represents key l m)
    (h' : Represents key l m') : m = m' := by
  funext k
  apply Option.ext
  intro a
  exact (h.mem_iff k a).trans (h'.mem_iff k a).symm

variable [DecidableEq κ]

theorem Represents.append (h : Represents key l m) {a : α} (hnew : m (key a) = none) :
    Represents key (l ++ [a]) (Function.update m (key a) (some a)) where
  nodup := by
    rw [List.map_append, List.nodup_append]
    refine ⟨h.nodup, List.nodup_singleton _, ?_⟩
    intro k hk k' hk' heq
    obtain ⟨b, hb, rfl⟩ := List.mem_map.mp hk
    obtain rfl := List.mem_singleton.mp hk'
    exact h.eq_none_iff.mp hnew b hb heq
  mem_iff k b := by
    rcases eq_or_ne k (key a) with rfl | hne
    · rw [Function.update_self, List.mem_append, List.mem_singleton]
      constructor
      · intro heq
        obtain rfl := Option.some.inj heq
        exact ⟨.inr rfl, rfl⟩
      · rintro ⟨hb | rfl, hkey⟩
        · exact absurd hkey (h.eq_none_iff.mp hnew b hb)
        · rfl
    · rw [Function.update_of_ne hne, h.mem_iff, List.mem_append, List.mem_singleton]
      constructor
      · rintro ⟨hb, hkey⟩
        exact ⟨.inl hb, hkey⟩
      · rintro ⟨hb | rfl, hkey⟩
        · exact ⟨hb, hkey⟩
        · exact absurd hkey.symm hne

/-- The first record with a key is taken out. -/
def remove (key : α → κ) (k : κ) (l : List α) : List α :=
  l.eraseP fun a => key a = k

theorem map_remove (k : κ) (l : List α) : (remove key k l).map key = (l.map key).erase k := by
  unfold remove
  induction l with
  | nil => rfl
  | cons a rest ih =>
      rw [List.map_cons, List.eraseP_cons]
      rcases eq_or_ne (key a) k with hkey | hkey
      · rw [decide_eq_true hkey, hkey, List.erase_cons_head]
        rfl
      · rw [decide_eq_false hkey, List.erase_cons_tail (by simpa using hkey)]
        exact congrArg (key a :: ·) ih

theorem Represents.mem_remove (h : Represents key l m) {k : κ} {a : α} :
    a ∈ remove key k l ↔ a ∈ l ∧ key a ≠ k := by
  constructor
  · intro ha
    refine ⟨List.mem_of_mem_eraseP ha, ?_⟩
    intro hkey
    have hin : k ∈ (l.map key).erase k := by
      rw [← map_remove]
      exact List.mem_map.mpr ⟨a, ha, hkey⟩
    exact h.nodup.not_mem_erase hin
  · rintro ⟨ha, hkey⟩
    exact (List.mem_eraseP_of_neg (by simpa using hkey)).mpr ha

theorem Represents.remove (h : Represents key l m) (k : κ) :
    Represents key (remove key k l) (Function.update m k none) where
  nodup := by
    rw [map_remove]
    exact h.nodup.erase k
  mem_iff k' a := by
    rcases eq_or_ne k' k with rfl | hne
    · rw [Function.update_self]
      constructor
      · intro heq
        cases heq
      · rintro ⟨ha, hkey⟩
        exact absurd hkey (h.mem_remove.mp ha).2
    · rw [Function.update_of_ne hne, h.mem_iff, h.mem_remove]
      constructor
      · rintro ⟨ha, rfl⟩
        exact ⟨⟨ha, hne⟩, rfl⟩
      · rintro ⟨⟨ha, -⟩, hkey⟩
        exact ⟨ha, hkey⟩

/-- The first record with a key is changed in its place; without one, a new record is
appended. -/
def upsert (key : α → κ) (k : κ) (f : Option α → α) : List α → List α
  | [] => [f none]
  | a :: l => if key a = k then f (some a) :: l else a :: upsert key k f l

variable {k : κ} {f : Option α → α}

theorem upsert_of_forall_ne (h : ∀ a ∈ l, key a ≠ k) : upsert key k f l = l ++ [f none] := by
  induction l with
  | nil => rfl
  | cons a rest ih =>
      unfold upsert
      rw [if_neg (h a List.mem_cons_self), ih fun b hb => h b (List.mem_cons_of_mem a hb)]
      rfl

theorem mem_upsert_of_mem (hnodup : (l.map key).Nodup) {a b : α} (ha : a ∈ l)
    (hkey : key a = k) (hf : key (f (some a)) = k) :
    b ∈ upsert key k f l ↔ b = f (some a) ∨ (b ∈ l ∧ key b ≠ k) := by
  induction l with
  | nil => cases ha
  | cons c rest ih =>
      rw [List.map_cons, List.nodup_cons] at hnodup
      unfold upsert
      split
      · rename_i hc
        have hac : a = c := by
          rcases List.mem_cons.mp ha with rfl | hrest
          · rfl
          · exact absurd (List.mem_map.mpr ⟨a, hrest, hkey.trans hc.symm⟩) hnodup.1
        rw [← hac, List.mem_cons, List.mem_cons]
        constructor
        · rintro (rfl | hb)
          · exact .inl rfl
          · right
            refine ⟨.inr hb, ?_⟩
            intro hbk
            exact hnodup.1 (List.mem_map.mpr ⟨b, hb, hbk.trans hc.symm⟩)
        · rintro (rfl | ⟨rfl | hb, hbk⟩)
          · exact .inl rfl
          · exact absurd hkey hbk
          · exact .inr hb
      · rename_i hc
        have harest : a ∈ rest := by
          rcases List.mem_cons.mp ha with rfl | hrest
          · exact absurd hkey hc
          · exact hrest
        rw [List.mem_cons, ih hnodup.2 harest, List.mem_cons]
        constructor
        · rintro (rfl | rfl | ⟨hb, hbk⟩)
          · exact .inr ⟨.inl rfl, hc⟩
          · exact .inl rfl
          · exact .inr ⟨.inr hb, hbk⟩
        · rintro (rfl | ⟨rfl | hb, hbk⟩)
          · exact .inr (.inl rfl)
          · exact .inl rfl
          · exact .inr (.inr ⟨hb, hbk⟩)

theorem map_upsert_of_mem {a : α} (ha : a ∈ l) (hkey : key a = k)
    (hf : ∀ a ∈ l, key a = k → key (f (some a)) = k) :
    (upsert key k f l).map key = l.map key := by
  induction l with
  | nil => cases ha
  | cons c rest ih =>
      unfold upsert
      split
      · rename_i hc
        rw [List.map_cons, List.map_cons, hf c List.mem_cons_self hc, hc]
      · rename_i hc
        have harest : a ∈ rest := by
          rcases List.mem_cons.mp ha with rfl | hrest
          · exact absurd hkey hc
          · exact hrest
        rw [List.map_cons, List.map_cons, ih harest]
        intro b hb
        exact hf b (List.mem_cons_of_mem c hb)

theorem Represents.upsert (h : Represents key l m) (hf : key (f (m k)) = k) :
    Represents key (upsert key k f l) (Function.update m k (some (f (m k)))) := by
  cases hk : m k with
  | none =>
      rw [hk] at hf
      rw [upsert_of_forall_ne (h.eq_none_iff.mp hk)]
      have happend := h.append (a := f none) (by rw [hf]; exact hk)
      rw [hf] at happend
      exact happend
  | some a =>
      rw [hk] at hf
      obtain ⟨ha, hkey⟩ := (h.mem_iff k a).mp hk
      constructor
      · rw [map_upsert_of_mem ha hkey]
        · exact h.nodup
        · intro b hb hbk
          obtain rfl : b = a := by
            have hb' := h.eq_some hb
            rw [hbk, hk] at hb'
            exact (Option.some.inj hb').symm
          exact hf
      · intro k' b
        rw [mem_upsert_of_mem h.nodup ha hkey hf]
        rcases eq_or_ne k' k with rfl | hne
        · rw [Function.update_self]
          constructor
          · intro heq
            obtain rfl := Option.some.inj heq
            exact ⟨.inl rfl, hf⟩
          · rintro ⟨rfl | ⟨-, hbk⟩, hb⟩
            · rfl
            · exact absurd hb hbk
        · rw [Function.update_of_ne hne, h.mem_iff]
          constructor
          · rintro ⟨hb, rfl⟩
            exact ⟨.inr ⟨hb, hne⟩, rfl⟩
          · rintro ⟨rfl | ⟨hb, -⟩, hbk⟩
            · exact absurd (hbk.symm.trans hf) hne
            · exact ⟨hb, hbk⟩

theorem mem_upsert {b : α} (hb : b ∈ upsert key k f l) :
    b ∈ l ∨ b = f none ∨ ∃ a ∈ l, key a = k ∧ b = f (some a) := by
  induction l with
  | nil => exact .inr (.inl (List.mem_singleton.mp hb))
  | cons c rest ih =>
      unfold upsert at hb
      split at hb
      · rename_i hc
        rcases List.mem_cons.mp hb with rfl | hb
        · exact .inr (.inr ⟨c, List.mem_cons_self, hc, rfl⟩)
        · exact .inl (List.mem_cons_of_mem c hb)
      · rcases List.mem_cons.mp hb with rfl | hb
        · exact .inl List.mem_cons_self
        · rcases ih hb with hb | hb | ⟨a, ha, hkey, heq⟩
          · exact .inl (List.mem_cons_of_mem c hb)
          · exact .inr (.inl hb)
          · exact .inr (.inr ⟨a, List.mem_cons_of_mem c ha, hkey, heq⟩)

theorem map_upsert {β : Type u} {seenKey : β → κ} {seen : α → β} {g : Option β → β}
    (hkey : ∀ a ∈ l, seenKey (seen a) = key a) (hnone : seen (f none) = g none)
    (hsome : ∀ a ∈ l, key a = k → seen (f (some a)) = g (some (seen a))) :
    (upsert key k f l).map seen = upsert seenKey k g (l.map seen) := by
  induction l with
  | nil => exact congrArg (fun b => [b]) hnone
  | cons c rest ih =>
      rw [List.map_cons]
      unfold upsert
      rw [hkey c List.mem_cons_self]
      split
      · rename_i hc
        rw [List.map_cons, hsome c List.mem_cons_self hc]
      · rw [List.map_cons, ih]
        · intro a ha
          exact hkey a (List.mem_cons_of_mem c ha)
        · intro a ha
          exact hsome a (List.mem_cons_of_mem c ha)

/-- The map that a list stands for where no two of its records have one key. -/
def lookup (key : α → κ) (l : List α) : κ → Option α := fun k => l.find? fun a => key a = k

theorem represents_lookup (h : (l.map key).Nodup) : Represents key l (lookup key l) where
  nodup := h
  mem_iff k a := by
    unfold lookup
    constructor
    · intro hfind
      have hkey : decide (key a = k) = true := List.find?_some (p := fun a => key a = k) hfind
      exact ⟨List.mem_of_find?_eq_some hfind, of_decide_eq_true hkey⟩
    · rintro ⟨ha, rfl⟩
      induction l with
      | nil => cases ha
      | cons c rest ih =>
          rw [List.map_cons, List.nodup_cons] at h
          rcases List.mem_cons.mp ha with rfl | ha
          · exact List.find?_cons_of_pos (decide_eq_true rfl)
          · have hne : ¬key c = key a := by
              intro heq
              exact h.1 (List.mem_map.mpr ⟨a, ha, heq.symm⟩)
            rw [List.find?_cons_of_neg (by rw [decide_eq_false hne]; exact Bool.false_ne_true)]
            exact ih h.2 ha

theorem lookup_upsert (h : (l.map key).Nodup) (hf : key (f (lookup key l k)) = k) :
    lookup key (upsert key k f l) =
      Function.update (lookup key l) k (some (f (lookup key l k))) := by
  have hafter := (represents_lookup h).upsert hf
  exact (represents_lookup hafter.nodup).unique hafter

theorem lookup_remove (h : (l.map key).Nodup) :
    lookup key (remove key k l) = Function.update (lookup key l) k none := by
  have hafter := (represents_lookup h).remove k
  exact (represents_lookup hafter.nodup).unique hafter

/-! ### Records that are found by a condition -/

variable {p : α → Bool}

theorem find?_eq_lookup (hp : ∀ a ∈ l, (p a = true ↔ key a = k)) :
    l.find? p = lookup key l k := by
  unfold lookup
  induction l with
  | nil => rfl
  | cons a rest ih =>
      have hrest := ih fun b hb => hp b (List.mem_cons_of_mem a hb)
      rcases eq_or_ne (key a) k with hkey | hkey
      · rw [List.find?_cons_of_pos ((hp a List.mem_cons_self).mpr hkey),
          List.find?_cons_of_pos (p := fun a => decide (key a = k)) (decide_eq_true hkey)]
      · rw [List.find?_cons_of_neg fun h => hkey ((hp a List.mem_cons_self).mp h),
          List.find?_cons_of_neg (by rw [decide_eq_false hkey]; exact Bool.false_ne_true), hrest]

theorem eraseP_eq_remove (hp : ∀ a ∈ l, (p a = true ↔ key a = k)) :
    l.eraseP p = remove key k l := by
  unfold remove
  induction l with
  | nil => rfl
  | cons a rest ih =>
      have hrest := ih fun b hb => hp b (List.mem_cons_of_mem a hb)
      rcases eq_or_ne (key a) k with hkey | hkey
      · rw [List.eraseP_cons_of_pos ((hp a List.mem_cons_self).mpr hkey),
          List.eraseP_cons_of_pos (p := fun a => decide (key a = k)) (decide_eq_true hkey)]
      · rw [List.eraseP_cons_of_neg fun h => hkey ((hp a List.mem_cons_self).mp h),
          List.eraseP_cons_of_neg (by rw [decide_eq_false hkey]; exact Bool.false_ne_true), hrest]

/-- The first record that meets a condition is changed in its place. -/
def updateFirst (p : α → Bool) (g : α → α) : List α → List α
  | [] => []
  | a :: l => if p a then g a :: l else a :: updateFirst p g l

theorem updateFirst_eq_upsert {g : α → α} (hp : ∀ a ∈ l, (p a = true ↔ key a = k))
    (hf : ∀ a, f (some a) = g a) (hex : ∃ a ∈ l, key a = k) :
    updateFirst p g l = upsert key k f l := by
  induction l with
  | nil =>
      obtain ⟨a, ha, -⟩ := hex
      cases ha
  | cons a rest ih =>
      unfold updateFirst upsert
      rcases eq_or_ne (key a) k with hkey | hkey
      · rw [if_pos ((hp a List.mem_cons_self).mpr hkey), if_pos hkey, hf]
      · rw [if_neg fun h => hkey ((hp a List.mem_cons_self).mp h), if_neg hkey, ih]
        · intro b hb
          exact hp b (List.mem_cons_of_mem a hb)
        · obtain ⟨b, hb, hbk⟩ := hex
          rcases List.mem_cons.mp hb with rfl | hb
          · exact absurd hbk hkey
          · exact ⟨b, hb, hbk⟩

end KeyedStore
