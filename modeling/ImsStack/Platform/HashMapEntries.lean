import ImsStack.Platform.ImsHashMap
import Mathlib.Data.List.TakeWhile

/-!
The representation of `ImsHashMap`, what each operation does to the entries, and the loops over an
iterator.
-/

namespace ImsStack.Platform

open ChainedBuckets

namespace ImsHashMap

def slot (m : ImsHashMap) (pvKey : Pointer) : Nat := getHashKey pvKey % m.m_nHashTableSize

/-- The representation of a map with a table size that is not zero. -/
structure Rep (m : ImsHashMap) : Prop where
  size : m.m_nHashTableSize ≠ 0
  placed : ∀ t, m.m_ppHashTable = some t →
    t.length = m.m_nHashTableSize ∧ Placed Element.m_pvKey m.slot t
  count : m.m_nCount = BitVec.ofNat 32 m.entries.length

variable {m : ImsHashMap}

theorem bucketOf?_eq (h : m.m_nHashTableSize ≠ 0) (k : Pointer) :
    m.bucketOf? k = some (m.slot k) := if_neg h

theorem slot_lt (h : m.m_nHashTableSize ≠ 0) (k : Pointer) : m.slot k < m.m_nHashTableSize :=
  Nat.mod_lt _ (Nat.pos_of_ne_zero h)

theorem entries_none (h : m.m_ppHashTable = none) : m.entries = [] := by
  unfold entries
  rw [h]
  rfl

theorem entries_some {t : List (List Element)} (h : m.m_ppHashTable = some t) :
    m.entries = t.flatten := by
  unfold entries
  rw [h]
  rfl

theorem Rep.nodup (h : m.Rep) : (m.entries.map Element.m_pvKey).Nodup := by
  cases htable : m.m_ppHashTable with
  | none =>
      rw [entries_none htable]
      exact List.nodup_nil
  | some t =>
      rw [entries_some htable]
      exact (h.placed t htable).2.nodup

theorem Rep.split (h : m.Rep) {t : List (List Element)} (htable : m.m_ppHashTable = some t)
    (k : Pointer) :
    ∃ before b after, t = before ++ b :: after ∧ before.length = m.slot k := by
  refine exists_split ?_
  rw [(h.placed t htable).1]
  exact slot_lt h.size k

theorem getD_split (before : List (List Element)) (b : List Element)
    (after : List (List Element)) : (before ++ b :: after).getD before.length [] = b := by
  rw [List.getD_eq_getElem?_getD, List.getElem?_append_right (Nat.le_refl _), Nat.sub_self]
  rfl

theorem Rep.getElementAt (h : m.Rep) (k : Pointer) :
    m.getElementAt k (m.slot k) = m.entries.find? fun e => e.m_pvKey = k := by
  unfold ImsHashMap.getElementAt findInChain
  cases htable : m.m_ppHashTable with
  | none =>
      rw [entries_none htable]
      rfl
  | some t =>
      obtain ⟨before, b, after, rfl, hslot⟩ := h.split htable k
      rw [entries_some htable, ← hslot]
      dsimp only
      rw [getD_split]
      exact (h.placed _ htable).2.find?_bucket hslot.symm

theorem find?_eq_some_iff {l : List Element} (hnodup : (l.map Element.m_pvKey).Nodup)
    {k : Pointer} {e : Element} :
    l.find? (fun e => e.m_pvKey = k) = some e ↔ e ∈ l ∧ e.m_pvKey = k := by
  constructor
  · intro h
    exact ⟨List.mem_of_find?_eq_some h, by simpa using List.find?_some h⟩
  · rintro ⟨hmem, hk⟩
    obtain ⟨xs, ys, rfl⟩ := List.append_of_mem hmem
    rw [List.map_append, List.map_cons] at hnodup
    have hxs : xs.find? (fun e => e.m_pvKey = k) = none := by
      rw [List.find?_eq_none]
      intro a ha heq
      refine (List.nodup_append.mp hnodup).2.2 a.m_pvKey (List.mem_map_of_mem ha) e.m_pvKey
        List.mem_cons_self ?_
      rw [of_decide_eq_true heq, hk]
    rw [List.find?_append, hxs, Option.none_or, List.find?_cons_of_pos (by simpa using hk)]

/-! ### One chain -/

section
variable {pre post : List Element} {e : Element} {k : Pointer}

theorem replaceValue_split (hpre : ∀ a ∈ pre, a.m_pvKey ≠ k) (he : e.m_pvKey = k) (v : Pointer) :
    replaceValue k v (pre ++ e :: post) = pre ++ ⟨k, v⟩ :: post := by
  induction pre with
  | nil =>
      rw [List.nil_append, replaceValue, if_pos he, ← he]
      rfl
  | cons a pre ih =>
      rw [List.cons_append, replaceValue, if_neg (hpre a List.mem_cons_self),
        ih fun a ha => hpre a (List.mem_cons_of_mem _ ha)]
      rfl

theorem eraseP_split (hpre : ∀ a ∈ pre, a.m_pvKey ≠ k) (he : e.m_pvKey = k) :
    (pre ++ e :: post).eraseP (fun e => e.m_pvKey = k) = pre ++ post := by
  rw [List.eraseP_append_right _ (fun a ha => by simpa using hpre a ha),
    List.eraseP_cons_of_pos (by simpa using he)]

theorem chainFrom_split (hpre : ∀ a ∈ pre, a.m_pvKey ≠ k) (he : e.m_pvKey = k) :
    chainFrom k (pre ++ e :: post) = some (e :: post) := by
  have hdrop : (pre ++ e :: post).dropWhile (fun e => e.m_pvKey ≠ k) = e :: post := by
    rw [List.dropWhile_append_of_pos fun a ha => decide_eq_true (hpre a ha),
      List.dropWhile_cons_of_neg (by simpa using he)]
  unfold chainFrom
  rw [hdrop]

theorem chainFrom_eq_none {chain : List Element} (h : ∀ a ∈ chain, a.m_pvKey ≠ k) :
    chainFrom k chain = none := by
  have hdrop : chain.dropWhile (fun e => e.m_pvKey ≠ k) = [] := by
    rw [List.dropWhile_eq_nil_iff]
    exact fun a ha => by simpa using h a ha
  unfold chainFrom
  rw [hdrop]

end

/-! ### The operations -/

theorem firstElement_eq (chains : List (List Element)) :
    firstElement chains = chains.flatten.head? := by
  unfold firstElement
  induction chains with
  | nil => rfl
  | cons chain chains ih =>
      rw [List.findSome?_cons, List.flatten_cons]
      cases chain with
      | nil => exact ih
      | cons e chain => rfl

theorem keys_ne {xs ys : List Element} {e : Element}
    (hnodup : ((xs ++ e :: ys).map Element.m_pvKey).Nodup) :
    (∀ a ∈ xs, a.m_pvKey ≠ e.m_pvKey) ∧ ∀ a ∈ ys, a.m_pvKey ≠ e.m_pvKey := by
  rw [List.map_append, List.map_cons] at hnodup
  obtain ⟨-, hrest, hcross⟩ := List.nodup_append.mp hnodup
  refine ⟨fun a ha => hcross _ (List.mem_map_of_mem ha) _ List.mem_cons_self, fun a ha heq => ?_⟩
  exact (List.nodup_cons.mp hrest).1 (heq ▸ List.mem_map_of_mem ha)

theorem Rep.modify (h : m.Rep) {before after : List (List Element)} {b : List Element}
    (htable : m.m_ppHashTable = some (before ++ b :: after)) {f : List Element → List Element}
    (hslot : ∀ a ∈ f b, m.slot a.m_pvKey = before.length)
    (hnodup : ((before.flatten ++ (f b ++ after.flatten)).map Element.m_pvKey).Nodup)
    {c : BitVec 32} (hcount : c = BitVec.ofNat 32 (before.flatten ++ (f b ++ after.flatten)).length) :
    { m.modifyBucket before.length f with m_nCount := c }.Rep ∧
      { m.modifyBucket before.length f with m_nCount := c }.entries =
        before.flatten ++ (f b ++ after.flatten) := by
  have htable' : (m.modifyBucket before.length f).m_ppHashTable =
      some (before ++ f b :: after) := by
    unfold modifyBucket
    rw [htable, Option.map_some, modify_split]
  have hentries : { m.modifyBucket before.length f with m_nCount := c }.entries =
      before.flatten ++ (f b ++ after.flatten) := by
    rw [entries_some (m := { m.modifyBucket before.length f with m_nCount := c }) htable',
      flatten_split]
  refine ⟨⟨h.size, ?_, ?_⟩, hentries⟩
  · intro t ht
    obtain rfl := Option.some.inj (htable'.symm.trans ht)
    obtain ⟨hlength, hplaced⟩ := h.placed _ htable
    refine ⟨?_, hplaced.replace hslot hnodup⟩
    rw [List.length_append, List.length_cons] at hlength ⊢
    exact hlength
  · rw [hentries]
    exact hcount

theorem Rep.split_at (h : m.Rep) {xs ys : List Element} {e : Element}
    (hentries : m.entries = xs ++ e :: ys) :
    ∃ before pre post after, m.m_ppHashTable = some (before ++ (pre ++ e :: post) :: after) ∧
      before.length = m.slot e.m_pvKey ∧ xs = before.flatten ++ pre ∧
      ys = post ++ after.flatten := by
  cases htable : m.m_ppHashTable with
  | none =>
      rw [entries_none htable] at hentries
      exact absurd hentries.symm (List.append_ne_nil_of_right_ne_nil _ (List.cons_ne_nil _ _))
  | some t =>
      rw [entries_some htable] at hentries
      obtain ⟨before, pre, post, after, rfl, hslot, hxs, hys⟩ :=
        (h.placed t htable).2.split_at hentries
      exact ⟨before, pre, post, after, rfl, hslot, hxs, hys⟩

theorem Rep.find?_entry (h : m.Rep) {xs ys : List Element} {e : Element}
    (hentries : m.entries = xs ++ e :: ys) :
    m.getElementAt e.m_pvKey (m.slot e.m_pvKey) = some e := by
  rw [h.getElementAt, find?_eq_some_iff h.nodup, hentries]
  exact ⟨List.mem_append_right _ List.mem_cons_self, rfl⟩

theorem Rep.setAt_present (h : m.Rep) {xs ys : List Element} {e : Element}
    (hentries : m.entries = xs ++ e :: ys) (v : Pointer) :
    ∃ m', m.setAt e.m_pvKey v = some m' ∧ m'.Rep ∧
      m'.entries = xs ++ ⟨e.m_pvKey, v⟩ :: ys := by
  obtain ⟨before, pre, post, after, htable, hslot, rfl, rfl⟩ := h.split_at hentries
  have hnodup := h.nodup
  rw [hentries] at hnodup
  have hne := (keys_ne hnodup).1
  have hbucket : replaceValue e.m_pvKey v (pre ++ e :: post) = pre ++ ⟨e.m_pvKey, v⟩ :: post :=
    replaceValue_split (fun a ha => hne a (List.mem_append_right _ ha)) rfl v
  have hplace : before.flatten ++ (pre ++ ⟨e.m_pvKey, v⟩ :: post ++ after.flatten) =
      before.flatten ++ pre ++ ⟨e.m_pvKey, v⟩ :: (post ++ after.flatten) := by
    simp only [List.append_assoc, List.cons_append]
  have hslots := (h.placed _ htable).2.slot_bucket
  obtain ⟨hrep, hentries'⟩ := h.modify htable (f := replaceValue e.m_pvKey v) (c := m.m_nCount)
    (by
      rw [hbucket]
      intro a ha
      rcases List.mem_append.mp ha with ha | ha
      · exact hslots a (List.mem_append_left _ ha)
      · rcases List.mem_cons.mp ha with rfl | ha
        · exact hslot.symm
        · exact hslots a (List.mem_append_right _ (List.mem_cons_of_mem _ ha)))
    (by
      rw [hbucket, hplace]
      rw [List.map_append, List.map_cons] at hnodup ⊢
      exact hnodup)
    (by
      rw [h.count, hentries, hbucket, hplace]
      simp only [List.length_append, List.length_cons])
  rw [hbucket, hplace] at hentries'
  refine ⟨_, ?_, hrep, hentries'⟩
  unfold setAt
  rw [bucketOf?_eq h.size]
  dsimp only
  rw [h.find?_entry hentries, ← hslot]
  rfl

/-- The map with its table made, as far as it was not there. -/
def withTable (m : ImsHashMap) : ImsHashMap :=
  if m.m_ppHashTable.isNone then m.initHashTable m.m_nHashTableSize else m

theorem Rep.withTable (h : m.Rep) :
    m.withTable.Rep ∧ m.withTable.entries = m.entries ∧
      m.withTable.m_nHashTableSize = m.m_nHashTableSize ∧ m.withTable.m_nCount = m.m_nCount ∧
        ∃ t, m.withTable.m_ppHashTable = some t := by
  unfold ImsHashMap.withTable
  cases htable : m.m_ppHashTable with
  | some t => exact ⟨h, rfl, rfl, rfl, t, htable⟩
  | none =>
      rw [Option.isNone_none, if_pos rfl]
      have hsize : (m.initHashTable m.m_nHashTableSize).m_nHashTableSize = m.m_nHashTableSize :=
        if_neg h.size
      have hentries : (m.initHashTable m.m_nHashTableSize).entries = [] :=
        List.flatten_replicate_nil
      refine ⟨⟨?_, ?_, ?_⟩, ?_, hsize, rfl, _, rfl⟩
      · rw [hsize]
        exact h.size
      · intro t ht
        obtain rfl := Option.some.inj ht
        exact ⟨List.length_replicate, placed_replicate _⟩
      · rw [hentries, ← entries_none htable]
        exact h.count
      · rw [hentries, entries_none htable]

theorem Rep.setAt_absent (h : m.Rep) {k : Pointer} (hk : ∀ a ∈ m.entries, a.m_pvKey ≠ k)
    (v : Pointer) :
    ∃ m' pre post, m.setAt k v = some m' ∧ m'.Rep ∧ m.entries = pre ++ post ∧
      m'.entries = pre ++ ⟨k, v⟩ :: post := by
  obtain ⟨hrep, hentries, hsize, hcount, t, htable⟩ := h.withTable
  obtain ⟨before, b, after, rfl, hslot⟩ := hrep.split htable k
  have hsplit : m.entries = before.flatten ++ (b ++ after.flatten) := by
    rw [← hentries, entries_some htable, flatten_split]
  have hslots := (hrep.placed _ htable).2.slot_bucket
  have hnodup := h.nodup
  obtain ⟨hrep', hentries'⟩ := hrep.modify htable (f := (⟨k, v⟩ :: ·)) (c := m.m_nCount + 1)
    (by
      intro a ha
      rcases List.mem_cons.mp ha with rfl | ha
      · exact hslot.symm
      · exact hslots a ha)
    (by
      rw [hsplit] at hnodup hk
      rw [List.cons_append, List.map_append, List.map_cons]
      rw [List.map_append] at hnodup
      rw [List.perm_middle.nodup_iff]
      refine List.nodup_cons.mpr ⟨?_, hnodup⟩
      rw [← List.map_append]
      intro hmem
      obtain ⟨a, ha, heq⟩ := List.mem_map.mp hmem
      exact hk a ha heq)
    (by
      rw [h.count, hsplit]
      simp only [List.cons_append, List.length_append, List.length_cons, ← Nat.add_assoc]
      exact (BitVec.ofNat_add _ 1).symm)
  refine ⟨_, before.flatten, b ++ after.flatten, ?_, hrep', hsplit, hentries'⟩
  have hnone : m.getElementAt k (m.slot k) = none := by
    rw [h.getElementAt, List.find?_eq_none]
    intro a ha heq
    exact hk a ha (of_decide_eq_true heq)
  unfold setAt
  rw [bucketOf?_eq h.size]
  dsimp only
  rw [hnone]
  change some _ = some _
  rw [show m.slot k = before.length by rw [hslot]; unfold slot; rw [hsize]]
  congr 2
  exact congrArg (· + 1) hcount

theorem Rep.removeKey_present (h : m.Rep) {xs ys : List Element} {e : Element}
    (hentries : m.entries = xs ++ e :: ys) :
    ∃ m', m.removeKey e.m_pvKey = some (true, m') ∧ m'.Rep ∧ m'.entries = xs ++ ys := by
  obtain ⟨before, pre, post, after, htable, hslot, rfl, rfl⟩ := h.split_at hentries
  have hnodup := h.nodup
  rw [hentries] at hnodup
  have hne := (keys_ne hnodup).1
  have hbucket : (pre ++ e :: post).eraseP (fun a => a.m_pvKey = e.m_pvKey) = pre ++ post :=
    eraseP_split (fun a ha => hne a (List.mem_append_right _ ha)) rfl
  have hplace : before.flatten ++ (pre ++ post ++ after.flatten) =
      before.flatten ++ pre ++ (post ++ after.flatten) := by
    simp only [List.append_assoc]
  have hslots := (h.placed _ htable).2.slot_bucket
  obtain ⟨hrep, hentries'⟩ := h.modify htable
    (f := List.eraseP fun a => a.m_pvKey = e.m_pvKey) (c := m.m_nCount - 1)
    (by
      rw [hbucket]
      intro a ha
      rcases List.mem_append.mp ha with ha | ha
      · exact hslots a (List.mem_append_left _ ha)
      · exact hslots a (List.mem_append_right _ (List.mem_cons_of_mem _ ha)))
    (by
      rw [hbucket, hplace]
      rw [List.map_append, List.map_cons, List.perm_middle.nodup_iff] at hnodup
      rw [List.map_append]
      exact (List.nodup_cons.mp hnodup).2)
    (by
      rw [h.count, hentries, hbucket, hplace]
      simp only [List.length_append, List.length_cons, ← Nat.add_assoc]
      rw [BitVec.ofNat_add _ 1]
      exact BitVec.add_sub_cancel _ _)
  rw [hbucket, hplace] at hentries'
  refine ⟨_, ?_, hrep, hentries'⟩
  unfold removeKey
  rw [if_neg (by rw [htable]; exact Bool.false_ne_true), bucketOf?_eq h.size]
  dsimp only
  rw [h.find?_entry hentries, ← hslot]

theorem Rep.removeKey_absent (h : m.Rep) {k : Pointer} (hk : ∀ a ∈ m.entries, a.m_pvKey ≠ k) :
    m.removeKey k = some (false, m) := by
  unfold removeKey
  split
  · rfl
  · rw [bucketOf?_eq h.size]
    dsimp only
    have hnone : m.getElementAt k (m.slot k) = none := by
      rw [h.getElementAt, List.find?_eq_none]
      intro a ha heq
      exact hk a ha (of_decide_eq_true heq)
    rw [hnone]

/-! ### The iterator -/

theorem Rep.getStartPosition (h : m.Rep) (hcount : m.entries.length < 2 ^ 32) :
    m.getStartPosition = some (m.entries.head?.map Element.m_pvKey) := by
  unfold ImsHashMap.getStartPosition
  split
  · rename_i hzero
    rw [h.count] at hzero
    have hlength : m.entries.length = 0 := by
      have := congrArg BitVec.toNat hzero
      rw [BitVec.toNat_ofNat, Nat.mod_eq_of_lt hcount] at this
      exact this
    rw [List.eq_nil_of_length_eq_zero hlength]
    rfl
  · rename_i hnonzero
    cases htable : m.m_ppHashTable with
    | none =>
        rw [h.count, entries_none htable] at hnonzero
        exact absurd rfl hnonzero
    | some t =>
        rw [Option.map_some, firstElement_eq, entries_some htable]

theorem Rep.elementsAt (h : m.Rep) {before after : List (List Element)} {pre post : List Element}
    {e : Element} (htable : m.m_ppHashTable = some (before ++ (pre ++ e :: post) :: after)) :
    m.elementsAt e.m_pvKey = some (e :: post) := by
  have hnodup := (h.placed _ htable).2.nodup
  rw [flatten_split, List.append_assoc, ← List.append_assoc] at hnodup
  have hne := (keys_ne hnodup).1
  have hbefore : before.findSome? (chainFrom e.m_pvKey) = none := by
    rw [List.findSome?_eq_none_iff]
    intro chain hchain
    exact chainFrom_eq_none fun a ha =>
      hne a (List.mem_append_left _ (List.mem_flatten.mpr ⟨chain, hchain, ha⟩))
  unfold ImsHashMap.elementsAt
  rw [htable]
  dsimp only
  rw [List.findSome?_append, hbefore, Option.none_or, List.findSome?_cons,
    chainFrom_split (fun a ha => hne a (List.mem_append_right _ ha)) rfl]

theorem Rep.getNext (h : m.Rep) {xs ys : List Element} {e : Element}
    (hentries : m.entries = xs ++ e :: ys) :
    m.getNext e.m_pvKey = some (e, ys.head?.map Element.m_pvKey) := by
  obtain ⟨before, pre, post, after, htable, hslot, rfl, rfl⟩ := h.split_at hentries
  unfold ImsHashMap.getNext
  rw [h.elementsAt htable]
  cases post with
  | cons next post => rfl
  | nil =>
      dsimp only
      rw [bucketOf?_eq h.size, Option.map_some, ← hslot, htable, Option.getD_some,
        firstElement_eq, List.nil_append]
      have hdrop : (before ++ (pre ++ [e]) :: after).drop (before.length + 1) = after := by
        rw [← List.drop_drop, List.drop_left]
        rfl
      rw [hdrop]

/-- The loop from an entry on visits that and all behind it, whether what it returns is removed or
not. -/
theorem Rep.iterate (remove : List Element → Bool) {xs ys : List Element} (h : m.Rep)
    (hentries : m.entries = xs ++ ys) (visited : List Element) :
    ∃ m', ImsHashMap.iterate remove ys.length m (ys.head?.map Element.m_pvKey) visited =
      some (visited ++ ys, m') := by
  induction ys generalizing m xs visited with
  | nil => exact ⟨m, by rw [List.append_nil]; rfl⟩
  | cons e ys ih =>
      rw [List.length_cons, List.head?_cons, Option.map_some]
      unfold ImsHashMap.iterate
      rw [h.getNext hentries, Option.bind_some]
      dsimp only
      rw [show visited ++ e :: ys = visited ++ [e] ++ ys by rw [List.append_assoc]; rfl]
      unfold removeIf
      split
      · obtain ⟨m', hremoved, hrep, hrest⟩ := h.removeKey_present hentries
        rw [hremoved, Option.map_some, Option.bind_some]
        exact ih hrep hrest (visited ++ [e])
      · rw [Option.bind_some]
        have hbehind : m.entries = xs ++ [e] ++ ys := by
          rw [hentries, List.append_assoc]
          rfl
        exact ih h hbehind (visited ++ [e])

theorem Rep.visitAll (h : m.Rep) (hcount : m.entries.length < 2 ^ 32)
    (remove : List Element → Bool) :
    ∃ m', m.visitAll remove m.entries.length = some (m.entries, m') := by
  unfold ImsHashMap.visitAll
  rw [h.getStartPosition hcount, Option.bind_some]
  exact h.iterate remove (List.nil_append m.entries).symm []

theorem rep_empty {nHashTableSize : Nat} (hsize : nHashTableSize ≠ 0) :
    (new nHashTableSize).Rep where
  size := hsize
  placed t ht := by cases ht
  count := rfl

theorem Rep.removeAll (h : m.Rep) (hcount : m.entries.length < 2 ^ 32) :
    m.removeAll = some (new m.m_nHashTableSize) := by
  unfold ImsHashMap.removeAll
  split
  · rename_i hnone
    rw [show new m.m_nHashTableSize = ⟨m.m_nHashTableSize, m.m_ppHashTable, 0#32⟩ by
      rw [Option.isNone_iff_eq_none.mp hnone]; rfl]
  · obtain ⟨m', hvisited⟩ := h.visitAll hcount fun _ => false
    rw [hvisited, Option.map_some]
    rfl

end ImsHashMap

end ImsStack.Platform
