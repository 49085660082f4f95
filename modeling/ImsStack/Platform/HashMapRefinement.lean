import ImsStack.Platform.HashMapEntries

/-!
`ImsHashMap` against the finite map that it stands for: the answers of all operations, the count and
the loops over an iterator.
-/

namespace ImsStack.Platform

namespace ImsHashMap

variable {m : ImsHashMap}

/-! ### The finite map -/

/-- The entries of a map are those of a finite map. -/
structure Stands (m : ImsHashMap) (f : FiniteMap) : Prop where
  rep : m.Rep
  lookup : ∀ k v, f.lookup k = some v ↔ ⟨k, v⟩ ∈ m.entries

variable {f : FiniteMap}

theorem Stands.find? (h : m.Stands f) (k : Pointer) :
    (m.entries.find? fun e => e.m_pvKey = k) = (f.lookup k).map fun v => ⟨k, v⟩ := by
  cases hk : f.lookup k with
  | some v =>
      rw [Option.map_some, find?_eq_some_iff h.rep.nodup]
      exact ⟨(h.lookup k v).mp hk, rfl⟩
  | none =>
      rw [Option.map_none, List.find?_eq_none]
      intro e he heq
      have hmem : f.lookup k = some e.m_pvValue := by
        rw [h.lookup k, ← of_decide_eq_true heq]
        exact he
      rw [hk] at hmem
      cases hmem

theorem Stands.getElementAt (h : m.Stands f) (k : Pointer) :
    m.getElementAt k (m.slot k) = (f.lookup k).map fun v => ⟨k, v⟩ := by
  rw [h.rep.getElementAt, h.find?]

theorem Stands.absent (h : m.Stands f) {k : Pointer} (hk : f.lookup k = none) :
    ∀ a ∈ m.entries, a.m_pvKey ≠ k := by
  rintro a ha rfl
  rw [(h.lookup a.m_pvKey a.m_pvValue).mpr ha] at hk
  cases hk

theorem Stands.card (h : m.Stands f) : f.keys.card = m.entries.length := by
  have hkeys : f.keys = (m.entries.map Element.m_pvKey).toFinset := by
    ext k
    rw [Finmap.mem_keys, Finmap.mem_iff, List.mem_toFinset, List.mem_map]
    constructor
    · rintro ⟨v, hv⟩
      exact ⟨⟨k, v⟩, (h.lookup k v).mp hv, rfl⟩
    · rintro ⟨e, he, rfl⟩
      exact ⟨e.m_pvValue, (h.lookup e.m_pvKey e.m_pvValue).mpr he⟩
  rw [hkeys, List.toFinset_card_of_nodup h.rep.nodup, List.length_map]

theorem stands_new {nHashTableSize : Nat} (hsize : nHashTableSize ≠ 0) :
    (new nHashTableSize).Stands ∅ where
  rep := rep_empty hsize
  lookup k v := by
    rw [Finmap.lookup_empty]
    constructor
    · intro h
      cases h
    · intro h
      cases h

/-! ### The operations on both -/

/-- The entries of the other keys. -/
def Others (f : FiniteMap) (k : Pointer) (l : List Element) : Prop :=
  (∀ a ∈ l, a.m_pvKey ≠ k) ∧ ∀ k' v', k' ≠ k → (f.lookup k' = some v' ↔ ⟨k', v'⟩ ∈ l)

theorem Stands.others_present (h : m.Stands f) {xs ys : List Element} {e : Element}
    (hentries : m.entries = xs ++ e :: ys) : Others f e.m_pvKey (xs ++ ys) := by
  have hnodup := h.rep.nodup
  rw [hentries] at hnodup
  obtain ⟨hxs, hys⟩ := keys_ne hnodup
  constructor
  · intro a ha
    rcases List.mem_append.mp ha with ha | ha
    · exact hxs a ha
    · exact hys a ha
  · intro k' v' hk
    rw [h.lookup, hentries, List.mem_append, List.mem_cons, List.mem_append]
    constructor
    · rintro (hmem | rfl | hmem)
      · exact .inl hmem
      · exact absurd rfl hk
      · exact .inr hmem
    · rintro (hmem | hmem)
      · exact .inl hmem
      · exact .inr (.inr hmem)

theorem Stands.others_absent (h : m.Stands f) {k : Pointer} (hk : f.lookup k = none) :
    Others f k m.entries :=
  ⟨h.absent hk, fun k' v' _ => h.lookup k' v'⟩

theorem Others.insert {k : Pointer} {xs ys : List Element} (h : Others f k (xs ++ ys))
    (v k' v' : Pointer) :
    (f.insert k v).lookup k' = some v' ↔ ⟨k', v'⟩ ∈ xs ++ ⟨k, v⟩ :: ys := by
  rw [List.mem_append, List.mem_cons]
  by_cases hk : k' = k
  · subst hk
    rw [Finmap.lookup_insert]
    constructor
    · intro heq
      obtain rfl := Option.some.inj heq
      exact .inr (.inl rfl)
    · rintro (hmem | heq | hmem)
      · exact absurd rfl (h.1 _ (List.mem_append_left _ hmem))
      · rw [(Element.mk.inj heq).2]
      · exact absurd rfl (h.1 _ (List.mem_append_right _ hmem))
  · rw [Finmap.lookup_insert_of_ne f hk, h.2 k' v' hk, List.mem_append]
    constructor
    · rintro (hmem | hmem)
      · exact .inl hmem
      · exact .inr (.inr hmem)
    · rintro (hmem | heq | hmem)
      · exact .inl hmem
      · exact absurd (Element.mk.inj heq).1 hk
      · exact .inr hmem

theorem Others.erase {k : Pointer} {l : List Element} (h : Others f k l) (k' v' : Pointer) :
    (f.erase k).lookup k' = some v' ↔ ⟨k', v'⟩ ∈ l := by
  by_cases hk : k' = k
  · subst hk
    rw [Finmap.lookup_erase]
    constructor
    · intro heq
      cases heq
    · intro hmem
      exact absurd rfl (h.1 _ hmem)
  · rw [Finmap.lookup_erase_ne hk]
    exact h.2 k' v' hk

theorem Stands.setAt (h : m.Stands f) (k v : Pointer) :
    ∃ m', m.setAt k v = some m' ∧ m'.Stands (f.insert k v) := by
  cases hk : f.lookup k with
  | some v₀ =>
      obtain ⟨xs, ys, hentries⟩ := List.append_of_mem ((h.lookup k v₀).mp hk)
      obtain ⟨m', hset, hrep, hentries'⟩ := h.rep.setAt_present hentries v
      refine ⟨m', hset, hrep, fun k' v' => ?_⟩
      rw [hentries']
      exact (h.others_present hentries).insert v k' v'
  | none =>
      obtain ⟨m', pre, post, hset, hrep, hentries, hentries'⟩ :=
        h.rep.setAt_absent (h.absent hk) v
      refine ⟨m', hset, hrep, fun k' v' => ?_⟩
      have hothers := h.others_absent hk
      rw [hentries] at hothers
      rw [hentries']
      exact hothers.insert v k' v'

theorem Stands.removeKey (h : m.Stands f) (k : Pointer) :
    ∃ m', m.removeKey k = some ((f.lookup k).isSome, m') ∧ m'.Stands (f.erase k) := by
  cases hk : f.lookup k with
  | some v₀ =>
      obtain ⟨xs, ys, hentries⟩ := List.append_of_mem ((h.lookup k v₀).mp hk)
      obtain ⟨m', hremoved, hrep, hentries'⟩ := h.rep.removeKey_present hentries
      refine ⟨m', hremoved, hrep, fun k' v' => ?_⟩
      rw [hentries']
      exact (h.others_present hentries).erase k' v'
  | none =>
      exact ⟨m, h.rep.removeKey_absent (h.absent hk), h.rep, (h.others_absent hk).erase⟩

/-- An operation on the map gives the answer of the finite map, and leaves what stands for it. -/
theorem Stands.run (h : m.Stands f) (hcount : m.entries.length < 2 ^ 32)
    (operation : MapOperation) :
    ∃ m', m.run operation = some ((FiniteMap.run f operation).1, m') ∧
      m'.Stands (FiniteMap.run f operation).2 := by
  cases operation with
  | setAt k v =>
      obtain ⟨m', hset, hstands⟩ := h.setAt k v
      refine ⟨m', ?_, hstands⟩
      unfold ImsHashMap.run
      dsimp only
      rw [hset]
      rfl
  | removeKey k =>
      obtain ⟨m', hremoved, hstands⟩ := h.removeKey k
      refine ⟨m', ?_, hstands⟩
      unfold ImsHashMap.run
      dsimp only
      rw [hremoved]
      rfl
  | removeAll =>
      refine ⟨new m.m_nHashTableSize, ?_, stands_new h.rep.size⟩
      unfold ImsHashMap.run
      dsimp only
      rw [h.rep.removeAll hcount]
      rfl
  | lookup k =>
      refine ⟨m, ?_, h⟩
      unfold ImsHashMap.run ImsHashMap.lookup
      dsimp only
      rw [bucketOf?_eq h.rep.size, Option.map_some, h.getElementAt]
      rfl
  | getValueAt k =>
      refine ⟨m, ?_, h⟩
      unfold ImsHashMap.run ImsHashMap.getValueAt ImsHashMap.lookup
      dsimp only
      rw [bucketOf?_eq h.rep.size, Option.map_some, h.getElementAt]
      rw [show FiniteMap.run f (.getValueAt k) = (.value ((f.lookup k).getD .null), f) from rfl]
      cases f.lookup k <;> rfl

/-! ### Runs of operations on both -/

/-- The count is the number of keys, and a loop over the iterator, whatever it removes of what it
has just returned, ends and has returned every entry once. -/
def Agrees (m : ImsHashMap) (f : FiniteMap) : Prop :=
  m.m_nCount.toNat = f.keys.card ∧
    ∀ remove : List Element → Bool, ∃ fuel visited m',
      m.visitAll remove fuel = some (visited, m') ∧ (visited.map Element.m_pvKey).Nodup ∧
        ∀ k v, ⟨k, v⟩ ∈ visited ↔ f.lookup k = some v

/-- Before, between and behind the operations the map agrees with the finite map, and every
operation is defined and gives its answer. -/
def Refines : ImsHashMap → FiniteMap → List MapOperation → Prop
  | m, f, [] => Agrees m f
  | m, f, operation :: operations =>
    Agrees m f ∧ ∃ m', m.run operation = some ((FiniteMap.run f operation).1, m') ∧
      Refines m' (FiniteMap.run f operation).2 operations

theorem refines_cons {operation : MapOperation} {operations : List MapOperation} :
    m.Refines f (operation :: operations) ↔
      m.Agrees f ∧ ∃ m', m.run operation = some ((FiniteMap.run f operation).1, m') ∧
        m'.Refines (FiniteMap.run f operation).2 operations := Iff.rfl

/-- The finite map never has more keys than the count can tell. -/
def Fits : FiniteMap → List MapOperation → Prop
  | f, [] => f.keys.card < 2 ^ 32
  | f, operation :: operations =>
    f.keys.card < 2 ^ 32 ∧ Fits (FiniteMap.run f operation).2 operations

/-- The operations that compute a bucket even if there is no table. -/
def Hashes : MapOperation → Prop
  | .setAt _ _ | .lookup _ | .getValueAt _ => True
  | .removeKey _ | .removeAll => False

theorem Stands.agrees (h : m.Stands f) (hcount : f.keys.card < 2 ^ 32) : m.Agrees f := by
  rw [h.card] at hcount
  constructor
  · rw [h.card, h.rep.count, BitVec.toNat_ofNat, Nat.mod_eq_of_lt hcount]
  · intro remove
    obtain ⟨m', hvisited⟩ := h.rep.visitAll hcount remove
    exact ⟨m.entries.length, m.entries, m', hvisited, h.rep.nodup, fun k v => (h.lookup k v).symm⟩

theorem Stands.refines (operations : List MapOperation) (h : m.Stands f)
    (hfits : Fits f operations) : m.Refines f operations := by
  induction operations generalizing m f with
  | nil => exact h.agrees hfits
  | cons operation operations ih =>
      have hcount := hfits.1
      rw [h.card] at hcount
      obtain ⟨m', hrun, hstands⟩ := h.run hcount operation
      exact ⟨h.agrees hfits.1, m', hrun, ih hstands hfits.2⟩

theorem Refines.fits (operations : List MapOperation) (h : m.Refines f operations) :
    Fits f operations := by
  induction operations generalizing m f with
  | nil =>
      unfold Fits
      rw [← h.1]
      exact BitVec.isLt _
  | cons operation operations ih =>
      obtain ⟨hagrees, m', -, hrest⟩ := h
      refine ⟨?_, ih hrest⟩
      rw [← hagrees.1]
      exact BitVec.isLt _

/-! ### A table size of zero -/

theorem run_new_zero_of_hashes {operation : MapOperation} (h : Hashes operation) :
    (new 0).run operation = none := by
  cases operation with
  | setAt k v => rfl
  | lookup k => rfl
  | getValueAt k => rfl
  | removeKey k => exact h.elim
  | removeAll => exact h.elim

theorem run_new_zero {operation : MapOperation} (h : ¬ Hashes operation) :
    (new 0).run operation = some ((FiniteMap.run ∅ operation).1, new 0) ∧
      (FiniteMap.run ∅ operation).2 = ∅ := by
  cases operation with
  | setAt k v => exact absurd trivial h
  | lookup k => exact absurd trivial h
  | getValueAt k => exact absurd trivial h
  | removeKey k =>
      constructor
      · rw [show FiniteMap.run ∅ (.removeKey k) =
          (.removed (Finmap.lookup k (∅ : FiniteMap)).isSome, Finmap.erase k ∅) from rfl,
          Finmap.lookup_empty]
        rfl
      · refine Finmap.ext_lookup fun k' => ?_
        rw [Finmap.lookup_empty]
        by_cases hk : k' = k
        · subst hk
          exact Finmap.lookup_erase k' ∅
        · exact (Finmap.lookup_erase_ne hk).trans (Finmap.lookup_empty k')
  | removeAll => exact ⟨rfl, rfl⟩

theorem agrees_new_zero : (new 0).Agrees ∅ := by
  constructor
  · rfl
  · intro remove
    refine ⟨0, [], new 0, rfl, List.nodup_nil, fun k v => ?_⟩
    rw [Finmap.lookup_empty]
    constructor
    · intro h
      cases h
    · intro h
      cases h

theorem refines_new_zero (operations : List MapOperation) :
    (new 0).Refines ∅ operations ↔ ∀ operation ∈ operations, ¬ Hashes operation := by
  induction operations with
  | nil =>
      refine iff_of_true agrees_new_zero ?_
      intro operation h
      cases h
  | cons operation operations ih =>
      rw [List.forall_mem_cons, ← ih, refines_cons]
      by_cases hhashes : Hashes operation
      · rw [run_new_zero_of_hashes hhashes]
        refine iff_of_false ?_ fun h => h.1 hhashes
        rintro ⟨-, m', hrun, -⟩
        cases hrun
      · obtain ⟨hrun, hempty⟩ := run_new_zero hhashes
        rw [hrun, hempty]
        constructor
        · rintro ⟨-, m', hm', hrest⟩
          obtain rfl := (Prod.mk.inj (Option.some.inj hm')).2
          exact ⟨hhashes, hrest⟩
        · rintro ⟨-, hrest⟩
          exact ⟨agrees_new_zero, new 0, rfl, hrest⟩

/-- For every table size and all sequences of operations: the hash map refines the finite map exactly
where its size is not zero, or no bucket is computed, and the number of keys fits its count. -/
theorem refines_iff (nHashTableSize : Nat) (operations : List MapOperation) :
    (new nHashTableSize).Refines ∅ operations ↔
      (nHashTableSize ≠ 0 ∨ ∀ operation ∈ operations, ¬ Hashes operation) ∧
        Fits ∅ operations := by
  by_cases hsize : nHashTableSize = 0
  · subst hsize
    rw [or_iff_right (fun h => h rfl), refines_new_zero, iff_self_and, ← refines_new_zero]
    exact Refines.fits operations
  · rw [and_iff_right (.inl hsize)]
    exact ⟨Refines.fits operations, (stands_new hsize).refines operations⟩

/-- The first entry of a map with a table size of zero. -/
theorem not_refines_zero :
    ¬ ∀ (nHashTableSize : Nat) (operations : List MapOperation),
      (new nHashTableSize).Refines ∅ operations := by
  intro h
  exact ((refines_new_zero [.setAt 8#64 1#64]).mp (h 0 _)) _ List.mem_cons_self trivial

end ImsHashMap

end ImsStack.Platform
