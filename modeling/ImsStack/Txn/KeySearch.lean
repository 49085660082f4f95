import ImsStack.Txn.SipTxn
import Mathlib.Data.Nat.Find
import Mathlib.Tactic.ByContra
import Mathlib.Tactic.Set

/-!
`SipTxnUtil::SearchTxnKey` with its loop as the source writes it: the index is a
`SIP_UINT16`, the size it is compared with a `SIP_UINT32`.
-/

namespace ImsStack.Txn

/-- The user's key while it is compared: `SetRules(RULE_COMPARE_TO_TAG)` and, on request,
`AddRule(RULE_COMPARE_RSEQ)`.  The rules it had are put back before every return. -/
def keyToSearch (userKey : SipTxnKey) (checkRSeq : Bool) : SipTxnKey :=
  { userKey with rules := ⟨true, false, checkRSeq⟩ }

/-- The `while` loop over a list whose entries may be null, for at most the given number
of iterations; `none` when it is still running after them. -/
def searchLoop (keys : List (Option SipTxnKey)) (generated : SipTxnKey) :
    Nat → Nat → Option (Option SipTxnKey)
  | 0, nIndex => if nIndex < uint32 keys.length then none else some none
  | iterations + 1, nIndex =>
    if nIndex < uint32 keys.length then
      match keys[nIndex]?.join with
      | none => some none
      | some stored =>
        if stored.compareKeysForRPR generated then some (some stored)
        else searchLoop keys generated iterations (uint16 (nIndex + 1))
    else some none

/-- `SipTxnUtil::SearchTxnKey`, its loop cut off after the given number of iterations. -/
def searchTxnKeyWithin (iterations : Nat) (keys : List (Option SipTxnKey))
    (userKey : Option SipTxnKey) (checkRSeq : Bool) : Option (Option SipTxnKey) :=
  match userKey with
  | none => some none
  | some userKey =>
    if uint32 keys.length = 0 then some none
    else searchLoop keys (keyToSearch userKey checkRSeq) iterations 0

/-- A stored key is in the list and matches. -/
def Matching (keys : List (Option SipTxnKey)) (generated stored : SipTxnKey) : Prop :=
  some stored ∈ keys ∧ stored.compareKeysForRPR generated = true

/-- The search ends within as many iterations as the list has entries, with a matching
key whenever there is one. -/
def SearchSucceeds (keys : List (Option SipTxnKey)) (userKey : SipTxnKey)
    (checkRSeq : Bool) : Prop :=
  ∃ result, searchTxnKeyWithin keys.length keys (some userKey) checkRSeq = some result ∧
    ((∃ stored, Matching keys (keyToSearch userKey checkRSeq) stored) →
      ∃ stored, result = some stored ∧ Matching keys (keyToSearch userKey checkRSeq) stored)

section Loop

variable {keys : List (Option SipTxnKey)} {generated : SipTxnKey}

/-- The entry at this index neither is null nor matches, so that the loop goes on. -/
def PassesAt (keys : List (Option SipTxnKey)) (generated : SipTxnKey) (i : Nat) : Prop :=
  ∃ stored, keys[i]? = some (some stored) ∧ stored.compareKeysForRPR generated = false

/-- The entry at this index matches. -/
def MatchesAt (keys : List (Option SipTxnKey)) (generated : SipTxnKey) (i : Nat) : Prop :=
  ∃ stored, keys[i]? = some (some stored) ∧ stored.compareKeysForRPR generated = true

/-- The entry at this index ends the loop. -/
def StopsAt (keys : List (Option SipTxnKey)) (generated : SipTxnKey) (i : Nat) : Prop :=
  keys[i]? = some none ∨ MatchesAt keys generated i

theorem stopsAt_or_passesAt {i : Nat} (hi : i < keys.length) :
    StopsAt keys generated i ∨ PassesAt keys generated i := by
  have hentry : keys[i]? = some keys[i] := List.getElem?_eq_getElem hi
  cases hkey : keys[i] with
  | none => exact Or.inl (Or.inl (by rw [hentry, hkey]))
  | some stored =>
    rw [hkey] at hentry
    cases hmatch : stored.compareKeysForRPR generated with
    | true => exact Or.inl (Or.inr ⟨stored, hentry, hmatch⟩)
    | false => exact Or.inr ⟨stored, hentry, hmatch⟩

theorem PassesAt.lt_length {i : Nat} (h : PassesAt keys generated i) : i < keys.length := by
  obtain ⟨stored, hentry, -⟩ := h
  exact (List.getElem?_eq_some_iff.mp hentry).1

theorem StopsAt.lt_length {i : Nat} (h : StopsAt keys generated i) : i < keys.length := by
  rcases h with hnull | ⟨stored, hentry, -⟩
  · exact (List.getElem?_eq_some_iff.mp hnull).1
  · exact (List.getElem?_eq_some_iff.mp hentry).1

theorem PassesAt.not_stopsAt {i : Nat} (h : PassesAt keys generated i) :
    ¬ StopsAt keys generated i := by
  obtain ⟨stored, hentry, hmatch⟩ := h
  rintro (hnull | ⟨other, hother, hmatches⟩)
  · exact Option.some_ne_none _ (Option.some.inj (hentry.symm.trans hnull))
  · rw [hentry] at hother
    rw [← Option.some.inj (Option.some.inj hother), hmatch] at hmatches
    exact Bool.noConfusion hmatches

variable (hsize : keys.length < 2 ^ 32)

include hsize in
theorem uint32_length : uint32 keys.length = keys.length := Nat.mod_eq_of_lt hsize

include hsize in
theorem searchLoop_passes {i : Nat} (h : PassesAt keys generated i) (iterations : Nat) :
    searchLoop keys generated (iterations + 1) i =
      searchLoop keys generated iterations (uint16 (i + 1)) := by
  have hi : i < uint32 keys.length := by rw [uint32_length hsize]; exact h.lt_length
  obtain ⟨stored, hentry, hmatch⟩ := h
  rw [searchLoop, if_pos hi, hentry]
  simp only [Option.join_some, hmatch, Bool.false_eq_true, if_false]

include hsize in
theorem searchLoop_null {i : Nat} (h : keys[i]? = some none) (iterations : Nat) :
    searchLoop keys generated (iterations + 1) i = some none := by
  have hi : i < uint32 keys.length := by
    rw [uint32_length hsize]; exact (List.getElem?_eq_some_iff.mp h).1
  rw [searchLoop, if_pos hi, h]
  rfl

include hsize in
theorem searchLoop_matches {i : Nat} {stored : SipTxnKey}
    (h : keys[i]? = some (some stored)) (hmatch : stored.compareKeysForRPR generated = true)
    (iterations : Nat) :
    searchLoop keys generated (iterations + 1) i = some (some stored) := by
  have hi : i < uint32 keys.length := by
    rw [uint32_length hsize]; exact (List.getElem?_eq_some_iff.mp h).1
  rw [searchLoop, if_pos hi, h]
  simp only [Option.join_some, hmatch, if_true]

include hsize in
/-- The loop over a stretch of entries that pass, below the end of the index type. -/
theorem searchLoop_skip (iterations : Nat) :
    ∀ count i, i + count < 2 ^ 16 → (∀ k, i ≤ k → k < i + count → PassesAt keys generated k) →
      searchLoop keys generated (count + iterations) i =
        searchLoop keys generated iterations (i + count) := by
  intro count
  induction count with
  | zero =>
    intro i _ _
    rw [Nat.zero_add, Nat.add_zero]
  | succ count ih =>
    intro i hbound hpasses
    have hstep : uint16 (i + 1) = i + 1 := Nat.mod_eq_of_lt (by omega)
    rw [show count + 1 + iterations = (count + iterations) + 1 by omega,
      searchLoop_passes hsize (hpasses i (Nat.le_refl i) (by omega)), hstep,
      ih (i + 1) (by omega) (fun k hk hlt => hpasses k (by omega) (by omega)),
      show i + 1 + count = i + (count + 1) by omega]

include hsize in
theorem searchLoop_forever (hpasses : ∀ k, k < 2 ^ 16 → PassesAt keys generated k)
    (iterations : Nat) :
    ∀ i, i < 2 ^ 16 → searchLoop keys generated iterations i = none := by
  induction iterations with
  | zero =>
    intro i hi
    rw [searchLoop, if_pos]
    rw [uint32_length hsize]
    exact (hpasses i hi).lt_length
  | succ iterations ih =>
    intro i hi
    rw [searchLoop_passes hsize (hpasses i hi)]
    exact ih _ (Nat.mod_lt _ (by decide))

include hsize in
theorem searchLoop_reaches {k : Nat} (hk : k < 2 ^ 16) (hlt : k < keys.length)
    (hpasses : ∀ j, j < k → PassesAt keys generated j) :
    ∃ iterations, searchLoop keys generated keys.length 0 =
      searchLoop keys generated (iterations + 1) k := by
  refine ⟨keys.length - k - 1, ?_⟩
  have hskip := searchLoop_skip hsize (keys.length - k - 1 + 1) k 0 (by omega)
    (fun j _ hj => hpasses j (by omega))
  rw [Nat.zero_add] at hskip
  rw [← hskip]
  congr 1
  omega

include hsize in
theorem searchLoop_short (hshort : keys.length < 2 ^ 16)
    (hpasses : ∀ j, j < keys.length → PassesAt keys generated j) :
    searchLoop keys generated keys.length 0 = some none := by
  have hskip := searchLoop_skip hsize 0 keys.length 0 (by omega)
    (fun j _ hj => hpasses j (by omega))
  rw [Nat.zero_add, Nat.add_zero] at hskip
  rw [hskip, searchLoop, uint32_length hsize, if_neg (Nat.lt_irrefl _)]

theorem searchTxnKeyWithin_some (iterations : Nat) (userKey : SipTxnKey) (checkRSeq : Bool) :
    searchTxnKeyWithin iterations keys (some userKey) checkRSeq =
      searchLoop keys (keyToSearch userKey checkRSeq) iterations 0 := by
  change (if uint32 keys.length = 0 then some none
    else searchLoop keys (keyToSearch userKey checkRSeq) iterations 0) = _
  by_cases hempty : uint32 keys.length = 0
  · rw [if_pos hempty]
    cases iterations <;>
      rw [searchLoop, hempty, if_neg (Nat.lt_irrefl 0)]
  · rw [if_neg hempty]

end Loop

/-- The loop's index can stop it, and the first key that matches is not behind a null entry. -/
structure IsSearchable (keys : List (Option SipTxnKey)) (generated : SipTxnKey) : Prop where
  stops : keys.length < 2 ^ 16 ∨ ∃ i, i < 2 ^ 16 ∧ StopsAt keys generated i
  noNullBefore : ∀ i, MatchesAt keys generated i →
    ∃ j, j ≤ i ∧ MatchesAt keys generated j ∧ ∀ k, k < j → keys[k]? ≠ some none

section Search

variable {keys : List (Option SipTxnKey)} {userKey : SipTxnKey} {checkRSeq : Bool}

theorem MatchesAt.exists_matching {generated : SipTxnKey} {i : Nat}
    (h : MatchesAt keys generated i) : ∃ stored, Matching keys generated stored := by
  obtain ⟨stored, hentry, hmatch⟩ := h
  exact ⟨stored, List.mem_of_getElem? hentry, hmatch⟩

theorem Matching.exists_matchesAt {generated stored : SipTxnKey}
    (h : Matching keys generated stored) : ∃ i, MatchesAt keys generated i := by
  obtain ⟨i, hentry⟩ := List.mem_iff_getElem?.mp h.1
  exact ⟨i, stored, hentry, h.2⟩

/-- Either some entry stops the loop, all before it passing, or all entries pass. -/
theorem exists_first_stop (keys : List (Option SipTxnKey)) (generated : SipTxnKey) :
    (∃ k, StopsAt keys generated k ∧ ∀ j, j < k → PassesAt keys generated j) ∨
      ∀ j, j < keys.length → PassesAt keys generated j := by
  classical
  by_cases hstop : ∃ k, StopsAt keys generated k
  · refine Or.inl ⟨Nat.find hstop, Nat.find_spec hstop, ?_⟩
    intro j hj
    have hlt : j < keys.length := Nat.lt_trans hj (Nat.find_spec hstop).lt_length
    exact (stopsAt_or_passesAt hlt).resolve_left (Nat.find_min hstop hj)
  · refine Or.inr fun j hj => ?_
    exact (stopsAt_or_passesAt hj).resolve_left fun h => hstop ⟨j, h⟩

/-- The first entry that stops the search of a searchable list is in the index's reach. -/
theorem IsSearchable.first_stop_lt {generated : SipTxnKey} (h : IsSearchable keys generated)
    {k : Nat} (hstop : StopsAt keys generated k)
    (hbefore : ∀ j, j < k → PassesAt keys generated j) : k < 2 ^ 16 := by
  have hlt := hstop.lt_length
  rcases h.stops with hshort | ⟨i, hi, hstop'⟩
  · omega
  · by_contra hk
    exact (hbefore i (by omega)).not_stopsAt hstop'

theorem IsSearchable.short_of_passes {generated : SipTxnKey} (h : IsSearchable keys generated)
    (hall : ∀ j, j < keys.length → PassesAt keys generated j) : keys.length < 2 ^ 16 := by
  rcases h.stops with hshort | ⟨i, -, hstop⟩
  · exact hshort
  · exact absurd hstop (hall i hstop.lt_length).not_stopsAt

/-- A search that ends has met an entry that stops it or the end of a short list. -/
theorem IsSearchable.of_ends (hsize : keys.length < 2 ^ 32)
    {result : Option SipTxnKey}
    (h : searchTxnKeyWithin keys.length keys (some userKey) checkRSeq = some result) :
    keys.length < 2 ^ 16 ∨
      ∃ i, i < 2 ^ 16 ∧ StopsAt keys (keyToSearch userKey checkRSeq) i := by
  by_cases hshort : keys.length < 2 ^ 16
  · exact Or.inl hshort
  · refine Or.inr ?_
    by_contra hstop
    have hpasses : ∀ k, k < 2 ^ 16 → PassesAt keys (keyToSearch userKey checkRSeq) k := by
      intro k hk
      exact (stopsAt_or_passesAt (by omega)).resolve_left fun hk' => hstop ⟨k, hk, hk'⟩
    rw [searchTxnKeyWithin_some, searchLoop_forever hsize hpasses _ 0 (by decide)] at h
    exact Option.some_ne_none _ h.symm

/-- `SipTxnUtil::SearchTxnKey` ends within as many iterations as there are entries, with a
matching key whenever there is one, exactly when fewer than 2^16 entries are stored or one
of the first 2^16 stops the loop, and no null entry stands before the first match. -/
theorem searchSucceeds_iff (keys : List (Option SipTxnKey)) (userKey : SipTxnKey)
    (checkRSeq : Bool) (hsize : keys.length < 2 ^ 32) :
    SearchSucceeds keys userKey checkRSeq ↔
      IsSearchable keys (keyToSearch userKey checkRSeq) := by
  set generated := keyToSearch userKey checkRSeq with hgenerated
  constructor
  · rintro ⟨result, hends, hfinds⟩
    refine ⟨IsSearchable.of_ends hsize hends, ?_⟩
    rw [searchTxnKeyWithin_some, ← hgenerated] at hends
    rw [← hgenerated] at hfinds
    intro i hi
    rcases exists_first_stop keys generated with ⟨k, hstop, hbefore⟩ | hall
    · -- the first entry that stops the loop is the one that decides its result
      have hk : k < 2 ^ 16 := by
        by_contra hk
        rw [searchLoop_forever hsize (fun j hj => hbefore j (by omega)) _ 0 (by decide)] at hends
        exact Option.some_ne_none _ hends.symm
      obtain ⟨iterations, hreach⟩ := searchLoop_reaches hsize hk hstop.lt_length hbefore
      rcases hstop with hnull | hmatch
      · rw [hreach, searchLoop_null hsize hnull] at hends
        obtain ⟨stored, hresult, -⟩ := hfinds hi.exists_matching
        rw [← Option.some.inj hends] at hresult
        exact absurd hresult.symm (Option.some_ne_none _)
      · refine ⟨k, ?_, hmatch, ?_⟩
        · by_contra hik
          exact (hbefore i (by omega)).not_stopsAt (Or.inr hi)
        · intro j hj hnull
          exact (hbefore j hj).not_stopsAt (Or.inl hnull)
    · obtain ⟨stored, hentry, -⟩ := id hi
      exact absurd (Or.inr hi)
        (hall i (List.getElem?_eq_some_iff.mp hentry).1).not_stopsAt
  · intro h
    unfold SearchSucceeds
    rw [searchTxnKeyWithin_some, ← hgenerated]
    rcases exists_first_stop keys generated with ⟨k, hstop, hbefore⟩ | hall
    · have hk := h.first_stop_lt hstop hbefore
      obtain ⟨iterations, hreach⟩ := searchLoop_reaches hsize hk hstop.lt_length hbefore
      rw [hreach]
      rcases hstop with hnull | ⟨stored, hentry, hmatch⟩
      · refine ⟨none, searchLoop_null hsize hnull iterations, ?_⟩
        rintro ⟨stored, hstored⟩
        obtain ⟨i, hi⟩ := hstored.exists_matchesAt
        obtain ⟨j, -, hj, hnulls⟩ := h.noNullBefore i hi
        -- the match lies behind the null entry, which no searchable list allows
        have hkj : ¬ j < k := fun hjk => (hbefore j hjk).not_stopsAt (Or.inr hj)
        have hjk : j ≠ k := by
          rintro rfl
          obtain ⟨other, hother, -⟩ := hj
          exact Option.some_ne_none _ (Option.some.inj (hother.symm.trans hnull))
        exact absurd hnull (hnulls k (by omega))
      · exact ⟨some stored, searchLoop_matches hsize hentry hmatch iterations,
          fun _ => ⟨stored, rfl, List.mem_of_getElem? hentry, hmatch⟩⟩
    · have hshort := h.short_of_passes hall
      refine ⟨none, searchLoop_short hsize hshort hall, ?_⟩
      rintro ⟨stored, hstored⟩
      obtain ⟨i, hi⟩ := hstored.exists_matchesAt
      exact absurd (Or.inr hi) (hall i (StopsAt.lt_length (Or.inr hi))).not_stopsAt

/-- A search among keys that ends gives what `searchTxnKey` computes. -/
theorem searchTxnKeyWithin_eq_searchTxnKey (stored : List SipTxnKey)
    (hsize : stored.length < 2 ^ 32)
    (h : IsSearchable (stored.map some) (keyToSearch userKey checkRSeq)) :
    searchTxnKeyWithin stored.length (stored.map some) (some userKey) checkRSeq =
      some (searchTxnKey stored userKey checkRSeq) := by
  have hsize' : (stored.map some).length < 2 ^ 32 := by rw [List.length_map]; exact hsize
  have hlength : (stored.map some).length = stored.length := List.length_map _
  rw [searchTxnKeyWithin_some]
  rcases exists_first_stop (stored.map some) (keyToSearch userKey checkRSeq) with
    ⟨k, hstop, hbefore⟩ | hall
  · have hk := h.first_stop_lt hstop hbefore
    obtain ⟨iterations, hreach⟩ := searchLoop_reaches hsize' hk hstop.lt_length hbefore
    rw [hlength] at hreach
    rcases hstop with hnull | ⟨key, hentry, hmatch⟩
    · rw [List.getElem?_map] at hnull
      cases hkey : stored[k]? <;> rw [hkey] at hnull <;> simp at hnull
    · rw [hreach, searchLoop_matches hsize' hentry hmatch]
      refine congrArg some (Eq.symm ?_)
      have hkey : stored[k]? = some key := by
        rw [List.getElem?_map] at hentry
        cases hkey : stored[k]? <;> rw [hkey] at hentry <;> simp at hentry
        rw [hentry]
      obtain ⟨hlt, hget⟩ := List.getElem?_eq_some_iff.mp hkey
      refine List.find?_eq_some_iff_getElem.mpr ⟨hmatch, k, ?_, ?_, ?_⟩
      · rw [List.length_take]
        omega
      · rw [List.getElem_take, hget]
      · intro j hj
        obtain ⟨other, hother, hpass⟩ := hbefore j hj
        rw [List.getElem?_map, List.getElem?_eq_getElem (by omega)] at hother
        rw [List.getElem_take, Option.some.inj (Option.some.inj hother)]
        exact Bool.not_eq_true' _ ▸ hpass
  · have hshort := h.short_of_passes hall
    rw [← hlength, searchLoop_short hsize' hshort hall]
    refine congrArg some (Eq.symm (List.find?_eq_none.mpr fun key hkey => ?_))
    obtain ⟨i, hi⟩ := List.mem_iff_getElem?.mp (List.mem_of_mem_take hkey)
    have hentry : (stored.map some)[i]? = some (some key) := by
      rw [List.getElem?_map, hi]
      rfl
    obtain ⟨other, hother, hpass⟩ := hall i (List.getElem?_eq_some_iff.mp hentry).1
    rw [Option.some.inj (Option.some.inj (hentry.symm.trans hother))]
    exact fun hmatch => Bool.noConfusion (hpass.symm.trans hmatch)

end Search

/-- The key of an INVITE without a call. -/
def inviteKey : SipTxnKey :=
  { rSeqNum := 1, viaBranchParam := some ['z'], viaHost := some ['h'],
    method := some methodInvite, cSeqNum := 1, toTag := none, fromTag := some ['f'],
    callId := some ['c'], respCode := 180, txnType := none, rules := ⟨true, true, false⟩ }

theorem searchSucceeds_inviteKey :
    SearchSucceeds [some inviteKey] inviteKey true ↔
      IsSearchable [some inviteKey] (keyToSearch inviteKey true) :=
  searchSucceeds_iff [some inviteKey] inviteKey true (by decide)

theorem searchTxnKeyWithin_inviteKey :
    searchTxnKeyWithin 1 [some inviteKey] (some inviteKey) true =
      some (searchTxnKey [inviteKey] inviteKey true) :=
  searchTxnKeyWithin_eq_searchTxnKey [inviteKey] (by decide)
    ⟨.inl (by decide), fun i hi => ⟨i, Nat.le_refl i, hi, fun k _ => by cases k <;> simp⟩⟩

/-- The search among 2^16 keys of another call never ends. -/
theorem not_searchSucceeds_full :
    ¬ SearchSucceeds (List.replicate (2 ^ 16) (some inviteKey))
      { inviteKey with callId := some ['d'] } true := by
  rintro ⟨result, hends, -⟩
  have hlength : (List.replicate (2 ^ 16) (some inviteKey)).length = 2 ^ 16 :=
    List.length_replicate
  have hpasses : ∀ k, k < 2 ^ 16 → PassesAt (List.replicate (2 ^ 16) (some inviteKey))
      (keyToSearch { inviteKey with callId := some ['d'] } true) k := by
    intro k hk
    exact ⟨inviteKey, List.getElem?_replicate_of_lt hk, by decide⟩
  rw [searchTxnKeyWithin_some,
    searchLoop_forever (by rw [hlength]; decide) hpasses _ 0 (by decide)] at hends
  exact Option.some_ne_none _ hends.symm

end ImsStack.Txn
